import DocAudit.Proofs.DocSet.TargetedReports
import DocAudit.Proofs.Link.Destination

/-!
# Orphaned pages

A page is orphaned unless it is an entry of the set or another page has a link to it
(`DocSet.IsLinked`).  The destination of a link is written as the path of a page is: two paths that
lead to one place have one destination, however they are spelt
(`LinkIndex.destination_eq_page_iff`).  So no link to a page is missed, and no link of a page to
itself is taken for one of another page.  The full report has one warning for each orphaned page, in
the order of the pages (`DocSet.orphanedPages_reported`).
-/

namespace DocAudit

open List LinkTarget FileTree

variable {root : FileTree} {page source : String}

/-! ## Links to pages -/

/-- The segments of the path of a page are names of entries, and there is a file where they lead. -/
lemma exists_place_of_mem_discoverPages (named : root.HasFileNames)
    (mem : page ∈ discoverPages root) :
    (∀ segment ∈ segments page.toList, IsName segment) ∧
      segments page.toList ∈ root.paths (!isHidden ·) := by
  rw [discoverPages, Text.mem_sorted] at mem
  obtain ⟨place, isPage, rfl⟩ := mem_map.1 mem
  obtain ⟨isPath, isPage⟩ := mem_filter.1 isPage
  have nonempty : place ≠ [] := by
    rintro rfl
    cases isPage
  have good := segment_of_mem_paths named place isPath
  rw [segments_intercalate nonempty fun segment inPlace => (good segment inPlace).2.2]
  refine ⟨fun segment inPlace => ?_, isPath⟩
  obtain ⟨shown, notEmpty, -⟩ := good segment inPlace
  refine ⟨notEmpty, ?_, ?_⟩
  all_goals
    rintro rfl
    revert shown
    decide

/-- **A link leads to a page exactly if its path, walked along from the directory of its own page,
ends at the place of the page.** -/
theorem LinkIndex.destination_eq_page_iff (named : root.HasFileNames)
    (distinct : root.HasDistinctNames)
    (bookmarks : List (String × List String)) (isSource : source ∈ discoverPages root)
    (isPage : page ∈ discoverPages root) (target : String) :
    ((LinkIndex.mk root bookmarks).check source target).destination = some page ↔
      ∃ path bookmark, read target = .relative path bookmark
        ∧ destination? source path = some (segments page.toList) := by
  obtain ⟨sourceNames, -⟩ := exists_place_of_mem_discoverPages named isSource
  obtain ⟨pageNames, isPath⟩ := exists_place_of_mem_discoverPages named isPage
  rw [destination_eq_some_iff]
  constructor
  · rintro ⟨path, bookmark, place, found, isRead, leads, -, rfl⟩
    refine ⟨path, bookmark, isRead, ?_⟩
    rw [leads, segments_intercalate]
    · rintro rfl
      -- the path of no page is empty
      exact (pageNames "" (by decide)).1 rfl
    · rw [destination?, Option.map_eq_some_iff] at leads
      obtain ⟨ended, ends, rfl⟩ := leads
      intro segment mem
      exact forall_mem_of_walk (fun segment mem =>
        (isName_of_mem_base sourceNames path segment mem).2)
        (fun segment mem _ => slash_not_mem_of_mem_segments segment mem) ends segment
          (mem_reverse.1 mem)
  · rintro ⟨path, bookmark, isRead, leads⟩
    obtain ⟨bytes, holds⟩ := exists_holds_of_mem_paths distinct _ isPath
    exact ⟨path, bookmark, _, _, isRead, leads, (follow?_eq_some_iff pageNames).2 holds,
      (intercalate_segments page).symm⟩

namespace DocSet

variable {settings : Settings} {options : CheckOptions} {rootName : String} {index : LinkIndex}
  {pages : List CheckedPage}

/-- Another page has a link that leads to a page. -/
def IsLinked (index : LinkIndex) (pages : List CheckedPage) (page : String) : Prop :=
  ∃ other ∈ pages, other.page.path ≠ page
    ∧ ∃ link ∈ other.page.links, (index.check other.page.path link.target).destination = some page

instance : Decidable (IsLinked index pages page) :=
  inferInstanceAs (Decidable (∃ other ∈ pages, _ ∧ ∃ link ∈ _, _))

/-- The destinations of a page leave out the page itself. -/
lemma mem_destinations {other : Page} : page ∈ index.destinations other ↔
    other.path ≠ page ∧ ∃ link ∈ other.links, (index.check other.path link.target).destination
      = some page := by
  rw [LinkIndex.destinations, Text.mem_sorted, mem_filter, mem_filterMap, bne_iff_ne,
    ne_comm, and_comm]

lemma mem_incoming_iff :
    page ∈ pages.flatMap (fun checked => index.destinations checked.page) ↔
      IsLinked index pages page := by
  simp only [mem_flatMap, mem_destinations, IsLinked]

/-- One finding is made for each page that is orphaned, in the order of the pages. -/
lemma orphanIssues_eq (rules : LinkRules) : orphanIssues index rules pages
    = ((pages.map (·.page.path)).filter fun page =>
        page ∉ rules.entryPages ∧ ¬IsLinked index pages page).map orphanIssue := by
  rw [orphanIssues, orphanedPages]
  refine congrArg (map orphanIssue) (filter_congr fun page _ => ?_)
  rw [Bool.eq_iff_iff, decide_eq_true_iff, Bool.and_eq_true, Bool.not_eq_true', Bool.not_eq_true',
    ← Bool.not_eq_true, ← Bool.not_eq_true, contains_iff_mem, contains_iff_mem, mem_incoming_iff,
    and_comm]

/-- What a full report says about orphaned pages are all its findings of this kind. -/
lemma filter_orphanedPage_full :
    (full settings options rootName root).report.allIssues.filter (·.code == .orphanedPage)
      = orphans settings options root := by
  have onPages : ((allPages settings options root).flatMap (·.issues)).filter
      (·.code == .orphanedPage) = [] := by
    rw [filter_eq_nil_iff]
    intro issue mem
    obtain ⟨checked, isPage, found⟩ := mem_flatMap.1 mem
    have isOther : issue.code ≠ .orphanedPage :=
      (isOf_of_mem_allPages isPage).code_ne (by decide) issue found
    simpa using isOther
  have aboutSet : (issuesOf rootName (allPages settings options root)).filter
      (·.code == .orphanedPage) = [] := by
    rw [filter_eq_nil_iff]
    intro issue found
    rw [beq_iff_eq]
    intro orphaned
    have listed := code_of_mem_issuesOf found
    rw [orphaned] at listed
    exact absurd listed (by decide)
  have orphaned : (orphans settings options root).filter (·.code == .orphanedPage)
      = orphans settings options root :=
    filter_eq_self.2 fun issue mem => beq_iff_eq.2 (of_mem_orphans mem).1
  have all : (full settings options rootName root).report.allIssues
      = (allPages settings options root).flatMap (·.issues)
        ++ (issuesOf rootName (allPages settings options root)
          ++ orphans settings options root) := by
    rw [report, Report.allIssues, reportedPages_full, flatMap_map, reportedIssues, full,
      ofDirectory_eq, Option.isNone_none, Bool.and_true]
    exact congrArg _ (filter_true _)
  rw [all, filter_append, filter_append, onPages, aboutSet, orphaned, nil_append, nil_append]

/-- **The full report on orphaned pages is exact.**  For a directory with pages, checked as a whole
and with its links, the warnings about orphaned pages are one for each page, in order, that is
neither an entry of the set nor the destination of a link on another page.  A link on a page has a
page as its destination, be it another one or the page itself, exactly if its path leads there,
whatever its spelling. -/
theorem orphanedPages_reported (settings : Settings) (options : CheckOptions) (rootName : String)
    (root : FileTree) (named : root.HasFileNames) (distinct : root.HasDistinctNames)
    (nonempty : discoverPages root ≠ []) (links : options.checksLinks = true) :
    ∃ set, check settings { options with pages := [] } rootName (some root) = .ok set
      ∧ set.pages.map (·.page.path) = discoverPages root
      ∧ (discoverPages root).Pairwise (· < ·)
      ∧ let index := LinkIndex.ofPages root (set.pages.map (·.page))
        set.report.allIssues.filter (·.code == .orphanedPage)
            = ((discoverPages root).filter fun page =>
                page ∉ settings.links.entryPages ∧ ¬IsLinked index set.pages page).map orphanIssue
          ∧ ∀ source ∈ discoverPages root, ∀ page ∈ discoverPages root, ∀ target,
              (index.check source target).destination = some page ↔
                ∃ path bookmark, read target = .relative path bookmark
                  ∧ destination? source path = some (segments page.toList) := by
  let set := full settings options rootName root
  have isDirectory : root.isDirectory = true := by
    obtain ⟨page, mem⟩ := exists_mem_of_ne_nil _ nonempty
    exact isDirectory_of_mem_discoverPages mem
  have pages : set.pages = allPages settings options root :=
    congrArg DocSet.pages (ofDirectory_eq ..)
  have paths : (allPages settings options root).map (·.page.path) = discoverPages root := by
    rw [map_map]
    exact (map_congr_left fun path _ => (isOf_checkedAt ..).itself).trans (map_id _)
  refine ⟨set, check_all isDirectory, pages ▸ paths, Text.pairwise_sorted _, ?_,
    fun source isSource page isPage =>
      LinkIndex.destination_eq_page_iff named distinct _ isSource isPage⟩
  rw [filter_orphanedPage_full, orphans, if_pos links, orphanIssues_eq, paths, pages]

/-- A page that only links to itself, in two spellings of its path, is orphaned; a page with a link
to it is not, and neither is an entry of the set. -/
theorem self_link_orphaned :
    let text : ByteArray := "[own](../docs/%61.md) [own](/docs/./a.md#a) [other](b%2Emd)".toUTF8
    let root : FileTree := .directory [("index.md", .file ⟨#[]⟩),
      ("docs", .directory [("a.md", .file text), ("b.md", .file ⟨#[]⟩)])]
    let rules : LinkRules := { Settings.stock.links with entryPages := ["index.md"] }
    let settings : Settings := { Settings.stock with links := rules }
    root.HasFileNames ∧ root.HasDistinctNames
      ∧ discoverPages root = ["docs/a.md", "docs/b.md", "index.md"]
      ∧ ∃ set, check settings ⟨true, true, []⟩ "site" (some root) = .ok set
        ∧ set.report.allIssues.filter (·.code == .orphanedPage) = [orphanIssue "docs/a.md"]
        ∧ ((LinkIndex.ofPages root (set.pages.map (·.page))).check "docs/a.md"
          "../docs/%61.md").destination
            = some "docs/a.md" := by
  intro text root rules settings
  have named : root.HasFileNames := by
    simp [root, HasFileNames, EntriesHaveFileNames]
  have distinct : root.HasDistinctNames := by
    simp [root, HasDistinctNames, EntriesHaveDistinctNames]
  have pages : discoverPages root = ["docs/a.md", "docs/b.md", "index.md"] := by decide +kernel
  obtain ⟨set, isChecked, -, -, reported, leads⟩ :=
    orphanedPages_reported settings ⟨true, true, []⟩ "site" root
    named distinct (by rw [pages]; decide) rfl
  have isChecked : check settings ⟨true, true, []⟩ "site" (some root) = .ok set := isChecked
  refine ⟨named, distinct, pages, set, isChecked, ?_, ?_⟩
  · have orphaned : ((check settings ⟨true, true, []⟩ "site" (some root)).toOption.map fun set =>
        (discoverPages root).filter fun page => page ∉ settings.links.entryPages
          ∧ ¬IsLinked (LinkIndex.ofPages root (set.pages.map (·.page))) set.pages page)
            = some ["docs/a.md"] := by
      decide +kernel
    rw [isChecked] at orphaned
    exact reported.trans (congrArg (map orphanIssue) (Option.some.inj orphaned))
  · have isPage : "docs/a.md" ∈ discoverPages root := pages ▸ mem_cons_self
    refine (leads _ isPage _ isPage "../docs/%61.md").2 ⟨"../docs/a.md".toList, none, ?_, ?_⟩
    · decide +kernel
    · decide +kernel

end DocSet

end DocAudit
