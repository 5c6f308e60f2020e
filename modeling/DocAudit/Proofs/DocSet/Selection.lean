import DocAudit.DocSet.Basic
import Mathlib.Data.List.Basic

/-!
# Selecting pages

A page is selected by its path.  A backslash in what is asked for counts as a slash, so a page is
asked for by its own path if and only if there is no backslash in it (`normalizedPage_eq_self_iff`).
Then the check of this page alone is the check of all pages but for what is reported
(`DocSet.check_one`).
-/

namespace DocAudit

open List

/-! ## Names of files -/

namespace FileTree

mutual

/-- Names of entries are not empty and have no slashes. -/
def HasFileNames : FileTree → Prop
  | file _ => True
  | directory entries => EntriesHaveFileNames entries

/-- Names of some entries, and of those in them, are not empty and have no slashes. -/
def EntriesHaveFileNames : List (String × FileTree) → Prop
  | [] => True
  | (name, tree) :: rest =>
    (name ≠ "" ∧ '/' ∉ name.toList) ∧ HasFileNames tree ∧ EntriesHaveFileNames rest

end

variable {enters : String → Bool}

mutual

/-- The segments of a path are names of entries. -/
lemma segment_of_mem_paths : ∀ {tree : FileTree}, tree.HasFileNames → ∀ path ∈ tree.paths enters,
    ∀ segment ∈ path, enters segment = true ∧ segment ≠ "" ∧ '/' ∉ segment.toList
  | file _, _, path, mem, segment, inPath => by
      rw [paths, mem_singleton] at mem
      simp [mem] at inPath
  | directory entries, named, path, mem, segment, inPath => by
      rw [HasFileNames] at named
      rw [paths] at mem
      exact segment_of_mem_pathsOfEntries named path mem segment inPath

lemma segment_of_mem_pathsOfEntries : ∀ {entries : List (String × FileTree)},
    EntriesHaveFileNames entries → ∀ path ∈ pathsOfEntries enters entries,
    ∀ segment ∈ path, enters segment = true ∧ segment ≠ "" ∧ '/' ∉ segment.toList
  | [], _, path, mem, _, _ => by
      rw [pathsOfEntries] at mem
      cases mem
  | (name, tree) :: rest, named, path, mem, segment, inPath => by
      rw [EntriesHaveFileNames] at named
      obtain ⟨isName, inner, others⟩ := named
      rw [pathsOfEntries, mem_append] at mem
      rcases mem with here | later
      · split at here
        · next entered =>
            obtain ⟨below, isBelow, rfl⟩ := mem_map.1 here
            rcases mem_cons.1 inPath with rfl | deeper
            · exact ⟨entered, isName⟩
            · exact segment_of_mem_paths inner below isBelow segment deeper
        · cases here
      · exact segment_of_mem_pathsOfEntries others path later segment inPath

end

end FileTree

/-! ## Asking for a page -/

/-- Every page is discovered once. -/
lemma nodup_discoverPages (root : FileTree) : (discoverPages root).Nodup :=
  Text.nodup_sorted _

/-- Pages are in directories. -/
lemma isDirectory_of_mem_discoverPages {root : FileTree} {page : String}
    (mem : page ∈ discoverPages root) :
    root.isDirectory = true := by
  cases root with
  | file bytes => simp [discoverPages, FileTree.paths, Text.sorted] at mem
  | directory entries => rfl

/-- Joined pieces start with the first one. -/
lemma prefix_intercalate (separator first : List Char) (rest : List (List Char)) :
    first <+: separator.intercalate (first :: rest) := by
  cases rest with
  | nil => simp [intercalate]
  | cons second rest =>
      rw [intercalate_cons_cons, append_assoc]
      exact prefix_append ..

/-- The path of a page starts neither with a point nor with a slash. -/
lemma exists_head_of_mem_discoverPages {root : FileTree} (named : root.HasFileNames) {page : String}
    (mem : page ∈ discoverPages root) : ∃ c rest, page.toList = c :: rest ∧ c ≠ '.' ∧ c ≠ '/' := by
  rw [discoverPages, Text.mem_sorted] at mem
  obtain ⟨path, isPage, rfl⟩ := mem_map.1 mem
  obtain ⟨isPath, isPage⟩ := mem_filter.1 isPage
  cases path with
  | nil => cases isPage
  | cons first rest =>
      obtain ⟨shown, nonempty, noSlash⟩ :=
        FileTree.segment_of_mem_paths named _ isPath first mem_cons_self
      cases start : first.toList with
      | nil => exact absurd (String.toList_eq_nil_iff.1 start) nonempty
      | cons c others =>
          obtain ⟨behind, joined⟩ := prefix_intercalate ['/'] first.toList (rest.map String.toList)
          refine ⟨c, others ++ behind, ?_, ?_, ?_⟩
          · rw [String.toList_intercalate, map_cons, ← cons_append, ← start, joined]
            rfl
          · rintro rfl
            simp [isHidden, start] at shown
          · rintro rfl
            exact noSlash (start ▸ mem_cons_self)

/-- A page is asked for by its own path exactly if the path has no backslash. -/
theorem normalizedPage_eq_self_iff {root : FileTree} (named : root.HasFileNames) {page : String}
    (mem : page ∈ discoverPages root) : normalizedPage page = page ↔ '\\' ∉ page.toList := by
  constructor
  · intro same inPath
    rw [← same, normalizedPage, String.toList_ofList] at inPath
    -- what is asked for has no backslashes, and nothing is added to it
    have kept : ∀ bound text, '\\' ∈ withoutStarts ['.', '/'] bound text → '\\' ∈ text := by
      intro bound
      induction bound with
      | zero => exact fun _ => id
      | succ bound ih =>
          intro text stays
          rw [withoutStarts] at stays
          split at stays
          · next rest taken =>
              rw [Text.eq_append_of_isPrefixOf? taken]
              exact mem_append_right _ (ih rest stays)
          · exact stays
    obtain ⟨c, -, isBackslash⟩ := mem_map.1 (kept _ _ ((dropWhile_suffix _).subset inPath))
    split at isBackslash
    · cases isBackslash
    · next other => exact other isBackslash
  · intro noBackslash
    obtain ⟨c, rest, start, noPoint, noSlash⟩ := exists_head_of_mem_discoverPages named mem
    have slashed : page.toList.map (fun c => if c = '\\' then '/' else c) = page.toList := by
      refine (map_congr_left fun c inPath => if_neg ?_).trans (map_id _)
      rintro rfl
      exact noBackslash inPath
    have noStart : (['.', '/'] : List Char).isPrefixOf? (c :: rest) = none := by
      simp [isPrefixOf?, Ne.symm noPoint]
    simp only [normalizedPage, slashed]
    rw [start, length_cons, withoutStarts, noStart]
    rw [Text.trimStartBy, dropWhile_cons_of_neg (by simp [noSlash]), ← start, String.ofList_toList]

/-! ## Checking selected pages -/

namespace DocSet

variable {settings : Settings} {options : CheckOptions} {rootName : String} {root : FileTree}

lemma check_all (isDirectory : root.isDirectory = true) :
    check settings { options with pages := [] } rootName (some root)
      = .ok (ofDirectory settings options rootName root (discoverPages root) none) := by
  rw [check, Option.filter_some, if_pos isDirectory]
  rfl

/-- The check of one page alone reports on this page. -/
lemma check_one (named : root.HasFileNames) {page : String} (mem : page ∈ discoverPages root)
    (noBackslash : '\\' ∉ page.toList) :
    check settings { options with pages := [page] } rootName (some root)
      = .ok (ofDirectory settings options rootName root (discoverPages root) (some [page])) := by
  have isDirectory := isDirectory_of_mem_discoverPages mem
  have same := (normalizedPage_eq_self_iff named mem).2 noBackslash
  have selected : selectPages (discoverPages root) [page] = .ok [page] := by
    simp [selectPages, same, mem, Text.sorted, Text.insertSorted]
  rw [check, Option.filter_some, if_pos isDirectory]
  simp only [isEmpty_cons, selected]
  rfl

end DocSet

end DocAudit
