import DocAudit.Proofs.DocSet.Pages
import DocAudit.Proofs.DocSet.Selection

/-!
# Reports on single pages

A report on one page has the findings on this page and those findings about the set that concern it.
Every finding about the set concerns a page, so the reports on all single pages have together what
the full report has, apart from orphaned pages (`DocSet.targeted_reports_partition`).  A page with a
backslash in its path has no report of its own (`DocSet.backslash_page_hidden`).
-/

namespace DocAudit.DocSet

open List

variable {set : DocSet} {issue : Issue}

/-! ## All findings of a report -/

lemma mem_allIssues : issue ∈ set.report.allIssues ↔
    (∃ checked ∈ set.reportedPages, issue ∈ checked.issues)
      ∨ issue ∈ set.issues ∧ set.concernsReported issue = true := by
  simp [report, Report.allIssues, reportedIssues, CheckedPage.report]

/-- A check passes if its report has no errors. -/
lemma passed_report_iff : set.report.passed = true ↔
    ∀ issue ∈ set.report.allIssues, issue.isError = false := by
  have all : set.reportedPages.flatMap (·.issues) ++ set.reportedIssues = set.report.allIssues := by
    simp [report, Report.allIssues, CheckedPage.report, flatMap_map]
  change set.passed = true ↔ _
  rw [passed, all]
  simp

/-- What concerns a page has a source or names pages. -/
lemma placed_of_concerns {page : String} (h : issue.concerns page = true) :
    (issue.source.isNone && issue.pages.isEmpty) = false := by
  obtain ⟨severity, code, source, message, pages⟩ := issue
  cases source with
  | some source => rfl
  | none =>
      cases pages with
      | nil => cases h
      | cons first rest => rfl

/-! ## The full report and the others -/

section reports

variable (settings : Settings) (options : CheckOptions) (rootName : String) (root : FileTree)

/-- The checked pages of a directory. -/
abbrev allPages : List CheckedPage :=
  (discoverPages root).map (checkedAt settings options root (discoverPages root))

/-- The check that reports on all pages of a directory. -/
abbrev full : DocSet :=
  ofDirectory settings options rootName root (discoverPages root) none

/-- The check that reports on one page of a directory. -/
abbrev targeted (page : String) : DocSet :=
  ofDirectory settings options rootName root (discoverPages root) (some [page])

/-- What a full report says about orphaned pages. -/
abbrev orphans : List Issue :=
  if options.checksLinks then
    orphanIssues (LinkIndex.ofPages root ((allPages settings options root).map (·.page)))
      settings.links
      (allPages settings options root)
  else []

variable {settings options rootName root} {page : String}

lemma isOf_of_mem_allPages {checked : CheckedPage}
    (mem : checked ∈ allPages settings options root) :
    checked.IsOf checked.page.path := by
  obtain ⟨path, -, rfl⟩ := mem_map.1 mem
  have isOf := isOf_checkedAt settings options root (discoverPages root) path
  rwa [isOf.itself]

lemma reportedPages_full :
    (full settings options rootName root).reportedPages = allPages settings options root := by
  rw [full, ofDirectory_eq]
  exact filter_true _

/-- A page is selected by its path. -/
lemma reportedPages_targeted (mem : page ∈ discoverPages root) :
    (targeted settings options rootName root page).reportedPages
      = [checkedAt settings options root (discoverPages root) page] := by
  have once : (discoverPages root).filter (· == page) = [page] := by
    rw [filter_beq, count_eq_one_of_mem (nodup_discoverPages root) mem, replicate_one]
  have byPath : (discoverPages root).filter ((fun checked => [page].contains checked.page.path)
      ∘ checkedAt settings options root (discoverPages root)) = [page] := by
    refine (filter_congr fun path _ => ?_).trans once
    rw [Function.comp_apply, (isOf_checkedAt ..).itself, contains_cons, contains_nil, Bool.or_false]
  rw [targeted, ofDirectory_eq]
  change (allPages settings options root).filter (fun checked => [page].contains checked.page.path)
    = _
  rw [filter_map, byPath, map_singleton]

/-- The report on one page has the findings on this page and those about the set that concern it. -/
lemma mem_allIssues_targeted (mem : page ∈ discoverPages root) :
    issue ∈ (targeted settings options rootName root page).report.allIssues ↔
      issue ∈ (checkedAt settings options root (discoverPages root) page).issues
        ∨ issue ∈ issuesOf rootName (allPages settings options root)
          ∧ issue.concerns page = true := by
  have nonempty : allPages settings options root ≠ [] := by
    simpa [allPages] using ne_nil_of_mem mem
  rw [mem_allIssues, reportedPages_targeted mem, targeted, ofDirectory_eq]
  refine or_congr ?_ ?_
  · simp
  · simp only [Option.isNone_some, Bool.and_false, Bool.false_eq_true, if_false, append_nil]
    refine and_congr_right fun isFound => ?_
    obtain ⟨checked, -, isConcerned⟩ :=
      exists_concerns nonempty (fun _ => isOf_of_mem_allPages) isFound
    simp [concernsReported, placed_of_concerns isConcerned]

/-- No page is orphaned in the report on a single page. -/
lemma code_of_mem_allIssues_targeted (mem : page ∈ discoverPages root)
    (found : issue ∈ (targeted settings options rootName root page).report.allIssues) :
    issue.code ≠ .orphanedPage := by
  rcases (mem_allIssues_targeted mem).1 found with onPage | ⟨aboutSet, -⟩
  · exact (isOf_checkedAt ..).code_ne (by decide) issue onPage
  · intro orphaned
    have listed := code_of_mem_issuesOf aboutSet
    rw [orphaned] at listed
    exact absurd listed (by decide)

/-- The full report has the findings on all pages and about the set, and orphaned pages. -/
lemma mem_allIssues_full :
    issue ∈ (full settings options rootName root).report.allIssues ↔
      (∃ page ∈ discoverPages root,
        issue ∈ (checkedAt settings options root (discoverPages root) page).issues)
        ∨ issue ∈ issuesOf rootName (allPages settings options root)
        ∨ issue ∈ orphans settings options root := by
  rw [mem_allIssues, reportedPages_full, full, ofDirectory_eq]
  refine or_congr ?_ ?_
  · simp [allPages]
  · rw [concernsReported, and_iff_left rfl, mem_append, Option.isNone_none, Bool.and_true]

lemma of_mem_orphans (mem : issue ∈ orphans settings options root) :
    issue.code = .orphanedPage ∧ issue.isError = false := by
  unfold orphans at mem
  split at mem
  · obtain ⟨page, -, rfl⟩ := mem_map.1 mem
    exact ⟨rfl, rfl⟩
  · cases mem

/-! ## What they have in common -/

section

variable (nonempty : discoverPages root ≠ [])
include nonempty

lemma allPages_ne_nil : allPages settings options root ≠ [] := by
  simpa [allPages] using nonempty

/-- What is found on a page or about the set is in the report on some page. -/
lemma exists_mem_allIssues_targeted_iff :
    (∃ page ∈ discoverPages root,
      issue ∈ (targeted settings options rootName root page).report.allIssues) ↔
      (∃ page ∈ discoverPages root,
        issue ∈ (checkedAt settings options root (discoverPages root) page).issues)
        ∨ issue ∈ issuesOf rootName (allPages settings options root) := by
  constructor
  · rintro ⟨page, mem, found⟩
    rcases (mem_allIssues_targeted mem).1 found with onPage | ⟨aboutSet, -⟩
    · exact .inl ⟨page, mem, onPage⟩
    · exact .inr aboutSet
  · rintro (⟨page, mem, onPage⟩ | aboutSet)
    · exact ⟨page, mem, (mem_allIssues_targeted mem).2 (.inl onPage)⟩
    · obtain ⟨checked, isPage, isConcerned⟩ :=
        exists_concerns (allPages_ne_nil nonempty) (fun _ => isOf_of_mem_allPages) aboutSet
      obtain ⟨page, mem, rfl⟩ := mem_map.1 isPage
      rw [(isOf_checkedAt ..).itself] at isConcerned
      exact ⟨page, mem, (mem_allIssues_targeted mem).2 (.inr ⟨aboutSet, isConcerned⟩)⟩

/-- A finding of the full report is in the report on some page, or it is about an orphaned page. -/
lemma mem_allIssues_full_iff : issue ∈ (full settings options rootName root).report.allIssues ↔
    (∃ page ∈ discoverPages root,
      issue ∈ (targeted settings options rootName root page).report.allIssues)
      ∨ issue ∈ orphans settings options root := by
  rw [mem_allIssues_full, exists_mem_allIssues_targeted_iff nonempty, or_assoc]

/-- The full report without orphaned pages is the union of the reports on single pages. -/
lemma mem_union_iff :
    issue ∈ (full settings options rootName root).report.allIssues ∧ issue.code ≠ .orphanedPage ↔
      ∃ page ∈ discoverPages root,
        issue ∈ (targeted settings options rootName root page).report.allIssues := by
  rw [mem_allIssues_full_iff nonempty]
  constructor
  · rintro ⟨found | orphaned, notOrphaned⟩
    · exact found
    · exact absurd (of_mem_orphans orphaned).1 notOrphaned
  · rintro ⟨page, mem, found⟩
    exact ⟨.inl ⟨page, mem, found⟩, code_of_mem_allIssues_targeted mem found⟩

/-- Orphaned pages are no errors, so they do not make the difference. -/
lemma passed_full_iff : (full settings options rootName root).report.passed = true ↔
    ∀ page ∈ discoverPages root, (targeted settings options rootName root page).report.passed
      = true := by
  simp only [passed_report_iff]
  constructor
  · intro passed page mem issue found
    exact passed issue ((mem_union_iff nonempty).2 ⟨page, mem, found⟩).1
  · intro passed issue found
    rcases (mem_allIssues_full_iff nonempty).1 found with ⟨page, mem, found⟩ | orphaned
    · exact passed page mem issue found
    · exact (of_mem_orphans orphaned).2

end

/-- **The reports on single pages partition the full report,** for a directory with pages whose
paths have no backslashes.  Whatever the settings and what is checked, all checks succeed, the pages
of the full report are those of the reports on single pages in order, and the findings of the full
report other than orphaned pages are those of the reports on single pages, so the full check passes
exactly if all checks of single pages do.  No report on a single page has an orphaned page. -/
theorem targeted_reports_partition (settings : Settings) (options : CheckOptions)
    (rootName : String)
    (root : FileTree) (named : root.HasFileNames) (nonempty : discoverPages root ≠ [])
    (slashes : ∀ page ∈ discoverPages root, '\\' ∉ page.toList) :
    ∃ (full : DocSet) (targeted : String → DocSet),
      check settings { options with pages := [] } rootName (some root) = .ok full
      ∧ (∀ page ∈ discoverPages root,
          check settings { options with pages := [page] } rootName (some root)
            = .ok (targeted page))
      ∧ full.report.pages = (discoverPages root).flatMap (fun page => (targeted page).report.pages)
      ∧ (∀ issue, issue ∈ full.report.allIssues ∧ issue.code ≠ .orphanedPage ↔
          ∃ page ∈ discoverPages root, issue ∈ (targeted page).report.allIssues)
      ∧ (full.report.passed = true ↔
          ∀ page ∈ discoverPages root, (targeted page).report.passed = true)
      ∧ ∀ page ∈ discoverPages root, ∀ issue ∈ (targeted page).report.allIssues,
          issue.code ≠ .orphanedPage := by
  have isDirectory : root.isDirectory = true := by
    obtain ⟨page, mem⟩ := exists_mem_of_ne_nil _ nonempty
    exact isDirectory_of_mem_discoverPages mem
  refine ⟨full settings options rootName root, targeted settings options rootName root,
    check_all isDirectory, fun page mem => check_one named mem (slashes page mem), ?_,
    fun issue => mem_union_iff nonempty, passed_full_iff nonempty,
    fun page mem issue found => code_of_mem_allIssues_targeted mem found⟩
  have single : ∀ page ∈ discoverPages root,
      (targeted settings options rootName root page).report.pages
      = [(checkedAt settings options root (discoverPages root) page).report] := by
    intro page mem
    rw [report, reportedPages_targeted mem, map_singleton]
  rw [report, reportedPages_full, flatMap_congr single, map_map, map_eq_flatMap]
  rfl

/-- A page that is no text fails the check of both pages and of this page, since it passes for the
other. -/
theorem unreadable_page_targeted :
    let root : FileTree := .directory [("a.md", .file ⟨#[0xFF]⟩), ("b.md", .file ⟨#[]⟩)]
    let options : CheckOptions := ⟨true, true, []⟩
    root.HasFileNames ∧ discoverPages root = ["a.md", "b.md"]
      ∧ (check .stock options "docs" (some root)).toOption.map (·.report.passed) = some false
      ∧ (check .stock { options with pages := ["b.md"] } "docs" (some root)).toOption.map
        (·.report.passed)
          = some true
      ∧ (check .stock { options with pages := ["a.md"] } "docs" (some root)).toOption.map
        (·.report.passed)
          = some false := by
  intro root options
  have named : root.HasFileNames := by
    simp [root, FileTree.HasFileNames, FileTree.EntriesHaveFileNames]
  have pages : discoverPages root = ["a.md", "b.md"] := by decide +kernel
  have fails : (check .stock options "docs" (some root)).toOption.map (·.report.passed)
      = some false := by
    decide +kernel
  have passes : (check .stock { options with pages := ["b.md"] } "docs" (some root)).toOption.map
      (·.report.passed) = some true := by
    decide +kernel
  obtain ⟨full, targeted, isFull, isTargeted, -, -, passed, -⟩ :=
    targeted_reports_partition .stock options "docs" root named (by rw [pages]; decide)
      (by rw [pages]; decide)
  refine ⟨named, pages, fails, passes, ?_⟩
  rw [pages, forall_mem_cons, forall_mem_singleton] at isTargeted passed
  have isFull : check .stock options "docs" (some root) = .ok full := isFull
  rw [isFull] at fails
  rw [isTargeted.2] at passes
  rw [isTargeted.1]
  have failsAll : full.report.passed = false := Option.some.inj fails
  have passesOther : (targeted "b.md").report.passed = true := Option.some.inj passes
  rw [passesOther, and_iff_left rfl, Bool.eq_iff_iff.symm, failsAll] at passed
  exact congrArg some passed.symm

/-- A page cannot be asked for if its path has a backslash and another page has the path with a
slash. -/
theorem backslash_page_hidden :
    let root : FileTree :=
      .directory [("a", .directory [("b.md", .file ⟨#[]⟩)]), ("a\\b.md", .file ⟨#[0xFF]⟩)]
    let options : CheckOptions := ⟨false, false, []⟩
    root.HasFileNames ∧ discoverPages root = ["a/b.md", "a\\b.md"]
      ∧ (check .stock options "docs" (some root)).toOption.map (·.report.passed) = some false
      ∧ ∀ page ∈ discoverPages root,
          (check .stock { options with pages := [page] } "docs" (some root)).toOption.map
            (·.report.passed)
            = some true := by
  intro root options
  have named : root.HasFileNames := by
    simp [root, FileTree.HasFileNames, FileTree.EntriesHaveFileNames]
  refine ⟨named, ?_⟩
  decide +kernel

end reports

end DocAudit.DocSet
