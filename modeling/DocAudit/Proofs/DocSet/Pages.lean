import DocAudit.DocSet.Basic
import DocAudit.Proofs.Page.Reading
import DocAudit.Proofs.Page.Reconciliation
import DocAudit.Proofs.ResourceGraph.Concerned

/-!
# Pages of a set and findings about the set

What a page of a set says stands on the page (`CheckedPage.IsOf`), and what is found about the set
as a whole concerns one of its pages (`DocSet.exists_concerns`).  Neither depends on which pages are
selected; the selection decides only whether orphaned pages are looked for
(`DocSet.ofDirectory_eq`).
-/

namespace DocAudit

open List

/-! ## Single pages -/

lemma Page.value_check (settings : Settings) (checksOutline : Bool) (path text : String) :
    (Page.check settings checksOutline path text).value
      = ({ (Page.scan settings path (readBlocks text)).value with
          links := readLinks text }.reconcile settings (some path)).value := by
  simp only [Page.check, Audit.value_within, Audit.value_bind]
  -- nothing is to be computed here
  generalize Page.scan settings path (readBlocks text) = scanned
  generalize readLinks text = links
  cases checksOutline <;> rfl

namespace CheckedPage

variable {path : String} {checked : CheckedPage}

/-- What can be found about a single page. -/
def codes : List IssueCode :=
  .documentReadError :: Page.codes ++ LinkIndex.codes

/-- A checked page with a path: its resources stand on it, and its findings are those about single
pages. -/
structure IsOf (path : String) (checked : CheckedPage) : Prop where
  itself : checked.page.path = path
  files : ∀ resource ∈ checked.page.resources, resource.file = path
  listed : ∀ issue ∈ checked.issues, issue.code ∈ codes

lemma isOf_read (settings : Settings) (options : CheckOptions) (root : FileTree) (path : String) :
    IsOf path (read settings options root path) := by
  simp only [read]
  split
  · next text _ =>
      have isRead := (Page.isAsRead_scan settings path (readBlocks text)).withLinks (readLinks text)
      have itself : (Page.check settings options.checksOutline path text).value.path = path := by
        rw [Page.value_check, Page.path_reconcile, isRead.itself]
      have files : ∀ file
          ∈ (Page.check settings options.checksOutline path text).value.resources.map
          (·.file), file = path := by
        rw [Page.value_check, Page.map_file_reconcile]
        exact forall_mem_map.2 isRead.files
      have listed : Audit.HasCodes codes (Page.check settings options.checksOutline path text) :=
        (Page.check_hasCodes ..).mono (by decide)
      generalize Page.check settings options.checksOutline path text = checked at *
      exact ⟨itself, forall_mem_map.1 files, listed.mem⟩
  · exact ⟨rfl, forall_mem_nil _, forall_mem_singleton.2 (by simp [codes, Issue.error])⟩

lemma IsOf.withLinks (h : IsOf path checked) (index : LinkIndex) (rules : LinkRules) :
    IsOf path (checked.withLinks index rules) where
  itself := h.itself
  files := h.files
  listed := by
    refine forall_mem_append.2 ⟨h.listed, forall_mem_map.2 fun issue mem => ?_⟩
    rw [Issue.code_within]
    exact mem_append_right _ (LinkIndex.code_of_mem_checkPage mem)

/-- A code that is not listed is not that of a finding about a page. -/
lemma IsOf.code_ne (h : IsOf path checked) {code : IssueCode} (absent : code ∉ codes) :
    ∀ issue ∈ checked.issues, issue.code ≠ code := by
  rintro issue mem rfl
  exact absent (h.listed issue mem)

end CheckedPage

/-! ## The set -/

namespace DocSet

/-! ### What does not depend on links -/

/-- The definitions of resources on some pages. -/
def definitions (pages : List CheckedPage) : List Resource :=
  pages.flatMap (·.page.resources)

/-- What is found about the set of some pages, whichever are selected. -/
def issuesOf (rootName : String) (pages : List CheckedPage) : List Issue :=
  (if pages.isEmpty then [emptyIssue rootName] else [])
    ++ (ResourceGraph.resolve (definitions pages)).issues
    ++ (ResourceGraph.resolve (definitions pages)).value.checkReferences (enumNames pages)

section

variable {pages others : List CheckedPage} (same : pages.map (·.page) = others.map (·.page))
include same

lemma flatMap_page_congr {α : Type} (read : Page → List α) :
    pages.flatMap (fun checked => read checked.page) = others.flatMap fun checked =>
      read checked.page := by
  rw [← flatMap_map CheckedPage.page read, same, flatMap_map]

lemma definitions_congr : definitions pages = definitions others :=
  flatMap_page_congr same (·.resources)

/-- What is found about a set goes by what is on its pages. -/
lemma issuesOf_congr (rootName : String) : issuesOf rootName pages = issuesOf rootName others := by
  have enums : enumNames pages = enumNames others :=
    flatMap_page_congr same fun page => page.enumMembers.map EnumMember.identifier
  have empty : pages.isEmpty = others.isEmpty := by
    rw [← isEmpty_map (f := CheckedPage.page), same, isEmpty_map]
  rw [issuesOf, issuesOf, definitions_congr same, enums, empty]

lemma orphanIssues_congr (index : LinkIndex) (rules : LinkRules) :
    orphanIssues index rules pages = orphanIssues index rules others := by
  have paths : pages.map (·.page.path) = others.map (·.page.path) := by
    have mapped : (pages.map (·.page)).map (·.path)
        = (others.map (·.page)).map (·.path) := by rw [same]
    rwa [map_map, map_map] at mapped
  simp only [orphanIssues, flatMap_page_congr same index.destinations, paths]

end

/-! ### Pages that findings concern -/

/-- What can be found about a set of pages, apart from orphaned pages. -/
def codes : List IssueCode :=
  [.emptyDocSet] ++ ResourceGraph.codes ++ [.unresolvedTypeReference]

variable {rootName : String} {pages : List CheckedPage} {issue : Issue}

lemma code_of_mem_issuesOf (mem : issue ∈ issuesOf rootName pages) : issue.code ∈ codes := by
  rw [issuesOf, mem_append, mem_append] at mem
  rcases mem with (empty | resolved) | unresolved
  · split at empty
    · rw [mem_singleton.1 empty]
      exact mem_cons_self
    · cases empty
  · exact mem_append_left _ (mem_append_right _ (ResourceGraph.code_of_mem_resolve resolved))
  · rw [(ResourceGraph.code_of_mem_checkReferences unresolved).1]
    decide

/-- A finding about a set of pages concerns one of them. -/
lemma exists_concerns (nonempty : pages ≠ [])
    (isOf : ∀ checked ∈ pages, checked.IsOf checked.page.path)
    (mem : issue ∈ issuesOf rootName pages) :
    ∃ checked ∈ pages, issue.concerns checked.page.path = true := by
  have stands : ∀ definition ∈ definitions pages, ∃ checked ∈ pages,
      definition.file = checked.page.path := by
    intro definition isDefinition
    obtain ⟨checked, isPage, isDefinition⟩ := mem_flatMap.1 isDefinition
    exact ⟨checked, isPage, (isOf checked isPage).files definition isDefinition⟩
  have noneEmpty : pages.isEmpty = false := isEmpty_eq_false_iff.2 nonempty
  rw [issuesOf, noneEmpty, mem_append, mem_append] at mem
  rcases mem with (empty | resolved) | unresolved
  · cases empty
  · obtain ⟨definition, isDefinition, isConcerned⟩ := ResourceGraph.exists_file_mem_pages resolved
    obtain ⟨checked, isPage, file⟩ := stands definition isDefinition
    exact ⟨checked, isPage, by simp [Issue.concerns, ← file, isConcerned]⟩
  · obtain ⟨definition, isDefinition, source⟩ := ResourceGraph.exists_source_eq_file unresolved
    obtain ⟨checked, isPage, file⟩ := stands definition isDefinition
    exact ⟨checked, isPage, by simp [Issue.concerns, ← file, source]⟩

/-! ### Checking a directory -/

variable (settings : Settings) (options : CheckOptions) (rootName) (root : FileTree)
  (paths : List String)

/-- The page at a path as it is checked together with those at other paths. -/
def checkedAt (path : String) : CheckedPage :=
  let checked := CheckedPage.read settings options root path
  if options.checksLinks then
    checked.withLinks
      (LinkIndex.ofPages root ((paths.map (CheckedPage.read settings options root)).map (·.page)))
      settings.links
  else checked

lemma isOf_checkedAt (path : String) :
    CheckedPage.IsOf path (checkedAt settings options root paths path) := by
  unfold checkedAt
  dsimp only
  split
  · exact (CheckedPage.isOf_read ..).withLinks ..
  · exact CheckedPage.isOf_read ..

lemma page_checkedAt (path : String) : (checkedAt settings options root paths path).page
    = (CheckedPage.read settings options root path).page := by
  unfold checkedAt
  dsimp only
  split <;> rfl

/-- Checking the pages of a directory, whichever are selected. -/
lemma ofDirectory_eq (selected : Option (List String)) :
    let pages := paths.map (checkedAt settings options root paths)
    ofDirectory settings options rootName root paths selected
      = { root := rootName
          pages
          graph := (ResourceGraph.resolve (definitions pages)).value
          issues := issuesOf rootName pages ++
            if options.checksLinks && selected.isNone then
              orphanIssues (LinkIndex.ofPages root (pages.map (·.page))) settings.links pages
            else []
          selected } := by
  intro pages
  have same : pages.map (·.page)
      = (paths.map (CheckedPage.read settings options root)).map (·.page) := by
    rw [map_map, map_map]
    exact map_congr_left fun path _ => page_checkedAt settings options root paths path
  rw [issuesOf_congr same, orphanIssues_congr same, definitions_congr same, same]
  cases links : options.checksLinks with
  | true =>
      have linked : pages = (paths.map (CheckedPage.read settings options root)).map
          (CheckedPage.withLinks (LinkIndex.ofPages root
            ((paths.map (CheckedPage.read settings options root)).map (·.page)))
              settings.links) := by
        rw [map_map]
        refine map_congr_left fun path _ => ?_
        rw [checkedAt, links]
        rfl
      rw [linked, ofDirectory, links, Bool.true_and]
      rfl
  | false =>
      have unlinked : pages = paths.map (CheckedPage.read settings options root) := by
        refine map_congr_left fun path _ => ?_
        rw [checkedAt, links]
        rfl
      rw [unlinked, ofDirectory, links, Bool.false_and]
      simp [issuesOf, definitions]

end DocSet

end DocAudit
