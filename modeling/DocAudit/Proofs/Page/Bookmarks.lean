import DocAudit.Proofs.DocSet.Pages
import DocAudit.Proofs.Outline.Nesting

/-!
# Bookmarks of a page

The bookmarks of a page that was scanned are those of its headings (`Page.mem_bookmarks_iff`), since
every heading adds its own one.  What happens to a page afterwards changes neither headings nor
bookmarks, so this holds of every page of a set (`CheckedPage.isScanned_read`).
-/

namespace DocAudit

open List

namespace Page

variable {page : Page}

/-- The bookmarks of a page are those of its headings. -/
def HasBookmarks (page : Page) : Prop :=
  ∀ bookmark, bookmark ∈ page.bookmarks ↔
    ∃ heading ∈ page.outline.headings, Text.slug heading.title = bookmark

lemma HasBookmarks.change {settings : Settings} {blocks : List Block} {next : Page}
    (h : page.HasBookmarks)
    (changed : Change settings blocks page next) : next.HasBookmarks := by
  cases changed with
  | heading title heading =>
      intro bookmark
      rw [Text.mem_insertSorted, h bookmark, Outline.headings_push]
      simp only [mem_append, mem_singleton, or_and_right, exists_or, exists_eq_left]
      rw [or_comm, eq_comm]
  | _ => exact h

/-- The bookmarks of a page that was scanned are those of its headings. -/
theorem hasBookmarks_scan (settings : Settings) (path : String) (blocks : List Block) :
    (Page.scan settings path blocks).value.HasBookmarks := by
  refine scan_induction (fun bookmark => ?_) fun _ _ changed h => h.change changed
  simp [Page.empty, Outline.empty, Outline.headings]

/-- A page with a path, headings and bookmarks as they are found by scanning some blocks. -/
def IsScanned (page : Page) : Prop :=
  ∃ settings blocks, page.outline = (Page.scan settings page.path blocks).value.outline
    ∧ page.bookmarks = (Page.scan settings page.path blocks).value.bookmarks

lemma isScanned_scan (settings : Settings) (path : String) (blocks : List Block) :
    (Page.scan settings path blocks).value.IsScanned := by
  refine ⟨settings, blocks, ?_⟩
  rw [(isAsRead_scan settings path blocks).itself]
  exact ⟨rfl, rfl⟩

lemma isScanned_empty (path : String) : (Page.empty path).IsScanned :=
  ⟨.stock, [], rfl, rfl⟩

/-- Neither links nor reconciliation change what was scanned. -/
lemma IsScanned.reconcile (h : page.IsScanned) (links : List Markdown.Link) (settings : Settings)
    (context : Option String) :
    ({ page with links }.reconcile settings context).value.IsScanned := by
  obtain ⟨space, resources, methods, tables, reconciled⟩ :=
    exists_reconcile_eq settings context { page with links }
  rw [reconciled]
  exact h

lemma isScanned_check (settings : Settings) (checksOutline : Bool) (path text : String) :
    (Page.check settings checksOutline path text).value.IsScanned := by
  rw [value_check]
  exact (isScanned_scan settings path (readBlocks text)).reconcile _ settings _

lemma IsScanned.mem_bookmarks_iff (h : page.IsScanned) {bookmark : String} :
    bookmark ∈ page.bookmarks ↔
      ∃ heading ∈ page.outline.headings, Text.slug heading.title = bookmark := by
  obtain ⟨settings, blocks, sameOutline, sameBookmarks⟩ := h
  rw [sameOutline, sameBookmarks]
  exact hasBookmarks_scan settings page.path blocks bookmark

end Page

/-- All pages of a set are scanned; of a page that is no text, no blocks are. -/
theorem CheckedPage.isScanned_read (settings : Settings) (options : CheckOptions) (root : FileTree)
    (path : String) :
    (CheckedPage.read settings options root path).page.IsScanned := by
  simp only [CheckedPage.read]
  split
  · next text _ => exact Page.isScanned_check settings options.checksOutline path text
  · exact Page.isScanned_empty path

end DocAudit
