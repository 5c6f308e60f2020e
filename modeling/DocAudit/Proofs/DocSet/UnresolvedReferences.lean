import DocAudit.Proofs.DocSet.TargetedReports

/-!
# Unresolved references in reports on single pages

One finding is made for all broken references of one name to one type, at the first definition that
has one.  So the report on a page shows that its definitions have broken references only if one of
them is the first of its kind in the set (`DocSet.unresolvedReference_reported_iff`).  A report on
the page of a later definition has no such finding (`DocSet.later_reference_hidden`).
-/

namespace DocAudit.DocSet

open List ResourceGraph

variable {settings : Settings} {options : CheckOptions} {rootName : String} {root : FileTree}
  {page : String}

/-- Where a finding about a reference is made: on a page, or in a part of it. -/
lemma concerns_unresolved (known : List String) (entry : Resource × TypeReference) :
    (entry.2.unresolved known entry.1).concerns page = true ↔
      entry.1.file = page ∨ (page ++ Issue.sourceSeparator).toList <+: entry.1.file.toList := by
  simp [TypeReference.unresolved, Issue.error, Issue.concerns]

/-- The findings about unknown types in the report on one page. -/
lemma unresolved_mem_allIssues_targeted (mem : page ∈ discoverPages root) {issue : Issue} :
    (issue ∈ (targeted settings options rootName root page).report.allIssues
        ∧ issue.code = .unresolvedTypeReference) ↔
      issue ∈ (resolve (definitions (allPages settings options root))).value.checkReferences
          (enumNames (allPages settings options root))
        ∧ issue.concerns page = true := by
  rw [mem_allIssues_targeted mem]
  constructor
  · rintro ⟨onPage | ⟨aboutSet, isConcerned⟩, unresolved⟩
    · exact absurd unresolved ((isOf_checkedAt ..).code_ne (by decide) issue onPage)
    · refine ⟨?_, isConcerned⟩
      rw [issuesOf, mem_append, mem_append] at aboutSet
      rcases aboutSet with (empty | resolved) | found
      · split at empty
        · rw [mem_singleton.1 empty] at unresolved
          cases unresolved
        · cases empty
      · have listed := code_of_mem_resolve resolved
        rw [unresolved] at listed
        exact absurd listed (by decide)
      · exact found
  · rintro ⟨found, isConcerned⟩
    exact ⟨.inr ⟨mem_append_right _ found, isConcerned⟩, (code_of_mem_checkReferences found).1⟩

/-- **A report on one page has a finding about an unknown type if and only if** a definition on this
page makes the first broken reference of its kind, where references are of one kind if they go from
one name to one type.  Then the check does not pass. -/
theorem unresolvedReference_reported_iff (settings : Settings) (options : CheckOptions)
    (rootName : String)
    (root : FileTree) (named : root.HasFileNames) {page : String} (mem : page ∈ discoverPages root)
    (slashes : '\\' ∉ page.toList) :
    ∃ set, check settings { options with pages := [page] } rootName (some root) = .ok set
      ∧ (∀ checked ∈ set.pages, ∀ resource ∈ checked.page.resources,
        resource.file = checked.page.path)
      ∧ let broken := brokenReferences (definitions set.pages) (enumNames set.pages)
        ((∃ issue ∈ set.report.allIssues, issue.code = .unresolvedTypeReference) ↔
            ∃ entry ∈ broken, broken.find? (reportKey · == reportKey entry) = some entry
              ∧ (entry.1.file = page
                ∨ (page ++ Issue.sourceSeparator).toList <+: entry.1.file.toList))
          ∧ ((∃ issue ∈ set.report.allIssues, issue.code = .unresolvedTypeReference) →
              set.report.passed = false) := by
  let set := targeted settings options rootName root page
  have pages : set.pages = allPages settings options root :=
    congrArg DocSet.pages (ofDirectory_eq ..)
  refine ⟨set, check_one named mem slashes, ?_, ?_, ?_⟩
  · rw [pages]
    exact fun checked isPage => (isOf_of_mem_allPages isPage).files
  · rw [pages]
    constructor
    · rintro ⟨issue, found⟩
      obtain ⟨unresolved, isConcerned⟩ := (unresolved_mem_allIssues_targeted mem).1 found
      obtain ⟨entry, isBroken, isFirst, rfl⟩ := mem_checkReferences_iff.1 unresolved
      exact ⟨entry, isBroken, isFirst, (concerns_unresolved ..).1 isConcerned⟩
    · rintro ⟨entry, isBroken, isFirst, onPage⟩
      exact ⟨_, (unresolved_mem_allIssues_targeted mem).2
        ⟨mem_checkReferences_iff.2 ⟨entry, isBroken, isFirst, rfl⟩,
          (concerns_unresolved ..).2 onPage⟩⟩
  · rintro ⟨issue, found⟩
    obtain ⟨unresolved, -⟩ := (unresolved_mem_allIssues_targeted mem).1 found
    rw [← Bool.not_eq_true, passed_report_iff]
    intro passed
    have isError := (code_of_mem_checkReferences unresolved).2
    rw [passed issue found.1] at isError
    cases isError

/-! ## Two definitions with one reference -/

/-- A page that defines a resource with a base type that nothing declares. -/
def itemText : String :=
  "<!-- \x7b \"blockType\": \"resource\", \"@odata.type\": \"foo.item\","
    ++ " \"baseType\": \"foo.none\" \x7d -->\n```json\n\x7b\x7d\n```\n"

/-- Two pages that define the resource. -/
def itemPages : FileTree :=
  .directory [("a.md", .file itemText.toUTF8), ("b.md", .file itemText.toUTF8)]

lemma exists_ok_of_any {result : Except DocSetError DocSet} {holds : DocSet → Bool}
    (h : result.toOption.any holds = true) : ∃ set, result = .ok set ∧ holds set = true := by
  cases result with
  | error reason => cases h
  | ok set => exact ⟨set, rfl, h⟩

lemma hasFileNames_itemPages : itemPages.HasFileNames := by
  simp [itemPages, FileTree.HasFileNames, FileTree.EntriesHaveFileNames]

/-- The report on the first page has a finding, and the check does not pass. -/
theorem first_reference_reported :
    itemPages.HasFileNames ∧ "a.md" ∈ discoverPages itemPages ∧ '\\' ∉ "a.md".toList
      ∧ ∃ set, check .stock ⟨false, false, ["a.md"]⟩ "docs" (some itemPages) = .ok set
        ∧ (∃ issue ∈ set.report.allIssues, issue.code = .unresolvedTypeReference)
        ∧ set.report.passed = false := by
  have mem : "a.md" ∈ discoverPages itemPages := by decide +kernel
  have first : (check .stock ⟨false, false, ["a.md"]⟩ "docs" (some itemPages)).toOption.any
      (fun set => (brokenReferences (definitions set.pages) (enumNames set.pages)).head?.any
        (·.1.file == "a.md"))
      = true := by
    decide +kernel
  obtain ⟨set, checked, first⟩ := exists_ok_of_any first
  obtain ⟨same, isSame, -, reported, fails⟩ :=
    unresolvedReference_reported_iff .stock ⟨false, false, []⟩ "docs" itemPages
      hasFileNames_itemPages mem (by decide)
  obtain rfl : set = same := Except.ok.inj (checked.symm.trans isSame)
  obtain ⟨entry, isHead, file⟩ := (Option.any_eq_true _ _).1 first
  obtain ⟨rest, broken⟩ := head?_eq_some_iff.1 isHead
  rw [broken] at reported
  have isReported := reported.2 ⟨entry, mem_cons_self, find?_cons_of_pos (beq_self_eq_true _),
    .inl (beq_iff_eq.1 file)⟩
  exact ⟨hasFileNames_itemPages, mem, by decide, set, checked, isReported, fails isReported⟩

/-- The second page defines the same resource with the same base type, but the report on it has no
such finding, and the check passes. -/
theorem later_reference_hidden :
    ∃ set, check .stock ⟨false, false, ["b.md"]⟩ "docs" (some itemPages) = .ok set
      ∧ (∃ checked ∈ set.pages, checked.page.path = "b.md" ∧ ∃ definition ∈ checked.page.resources,
          ∃ reference ∈ TypeReference.ofResource definition.baseType definition,
            ¬ Recognized (definitions set.pages) (enumNames set.pages) definition reference)
      ∧ (∀ issue ∈ set.report.allIssues, issue.code ≠ .unresolvedTypeReference)
      ∧ set.report.passed = true := by
  have hidden : (check .stock ⟨false, false, ["b.md"]⟩ "docs" (some itemPages)).toOption.any
      (fun set => decide ((∃ checked ∈ set.pages, checked.page.path = "b.md"
          ∧ ∃ definition ∈ checked.page.resources,
            ∃ reference ∈ TypeReference.ofResource definition.baseType definition,
              ¬ Recognized (definitions set.pages) (enumNames set.pages) definition reference)
        ∧ (∀ issue ∈ set.report.allIssues, issue.code ≠ .unresolvedTypeReference)
        ∧ set.report.passed = true)) = true := by
    decide +kernel
  obtain ⟨set, checked, hidden⟩ := exists_ok_of_any hidden
  exact ⟨set, checked, of_decide_eq_true hidden⟩

end DocAudit.DocSet
