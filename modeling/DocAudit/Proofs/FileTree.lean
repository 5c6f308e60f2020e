import DocAudit.FileTree
import DocAudit.Proofs.Lookup
import Mathlib.Data.List.Basic

/-!
# Places in a file tree

A path of names leads down from directory to entry, and what is there is said by `Holds`.  Following
such a path finds just this (`follow?_eq_some_iff`).  For other paths, with points in them, it is
enough to know what one more name does (`follow?_concat`), that there is nothing behind nothing
(`follow?_append_eq_none`), that no names are found but those in the tree (`mem_names_of_follow?`),
and that a file is found by a name only (`isName_of_follow?`).  The paths of all files lead to
files, unless an entry hides another one of the same name (`exists_holds_of_mem_paths`).
-/

namespace DocAudit.FileTree

open List

/-- A segment of a path that is the name of an entry, rather than a step on the spot or a step
up. -/
def IsName (segment : String) : Prop :=
  segment ≠ "" ∧ segment ≠ "." ∧ segment ≠ ".."

instance : DecidablePred IsName :=
  fun _ => inferInstanceAs (Decidable (_ ∧ _ ∧ _))

lemma segment_cases (segment : String) :
    (segment = "" ∨ segment = ".") ∨ segment = ".." ∨ IsName segment := by
  by_cases stays : segment = "" ∨ segment = "."
  · exact .inl stays
  · rw [not_or] at stays
    by_cases up : segment = ".."
    · exact .inr (.inl up)
    · exact .inr (.inr ⟨stays.1, stays.2, up⟩)

/-- What is at a place in a tree, given by the names of the entries that lead to it. -/
inductive Holds : FileTree → List String → FileTree → Prop
  | here (tree : FileTree) : Holds tree [] tree
  | entry {entries name inner rest target} (found : entries.lookup name = some inner)
      (deeper : Holds inner rest target) : Holds (directory entries) (name :: rest) target

variable {tree inner target : FileTree} {outer : List FileTree} {segment name : String}
  {path place : List String}

/-! ## One step -/

lemma child?_eq_some_iff : tree.child? name = some inner ↔
    ∃ entries, tree = directory entries ∧ entries.lookup name = some inner := by
  cases tree with
  | file bytes => simp [child?, entries?]
  | directory entries => simp [child?, entries?]

/-- All that a first segment can do: nothing, lead up, or lead to an entry. -/
lemma followFrom_cons_eq_some_iff : followFrom outer tree (segment :: path) = some target ↔
    tree.isDirectory = true ∧
      ((segment = "" ∨ segment = ".") ∧ followFrom outer tree path = some target
        ∨ (segment = ".." ∧ ∃ around further, outer = around :: further
          ∧ followFrom further around path = some target)
        ∨ (IsName segment ∧ ∃ inner, tree.child? segment = some inner
            ∧ followFrom (tree :: outer) inner path = some target)) := by
  rw [followFrom.eq_def]
  by_cases isDirectory : tree.isDirectory = true
  · rcases segment_cases segment with (rfl | rfl) | rfl | isName
    · simp [isDirectory, IsName]
    · simp [isDirectory, IsName]
    · cases outer <;> simp [isDirectory, IsName]
    · obtain ⟨notEmpty, notPoint, notPoints⟩ := id isName
      cases child : tree.child? segment <;>
        simp [isDirectory, notEmpty, notPoint, notPoints, isName, child]
  · simp [isDirectory]

lemma followFrom_name (isName : IsName segment) :
    followFrom outer tree (segment :: path) = some target ↔
    ∃ inner, tree.child? segment = some inner
      ∧ followFrom (tree :: outer) inner path = some target := by
  obtain ⟨notEmpty, notPoint, notPoints⟩ := isName
  rw [followFrom_cons_eq_some_iff]
  constructor
  · rintro ⟨-, ⟨rfl | rfl, -⟩ | ⟨rfl, -⟩ | ⟨-, child⟩⟩
    · exact absurd rfl notEmpty
    · exact absurd rfl notPoint
    · exact absurd rfl notPoints
    · exact child
  · rintro ⟨inner, isChild, found⟩
    obtain ⟨entries, rfl, -⟩ := child?_eq_some_iff.1 isChild
    exact ⟨rfl, .inr (.inr ⟨⟨notEmpty, notPoint, notPoints⟩, inner, isChild, found⟩)⟩

/-! ## Paths of names -/

lemma followFrom_eq_some_iff (names : ∀ segment ∈ path, IsName segment) :
    followFrom outer tree path = some target ↔ Holds tree path target := by
  induction path generalizing tree outer with
  | nil =>
      rw [followFrom, Option.some_inj]
      constructor
      · rintro rfl
        exact .here tree
      · rintro ⟨⟩
        rfl
  | cons name rest ih =>
      obtain ⟨isName, names⟩ := forall_mem_cons.1 names
      rw [followFrom_name isName]
      constructor
      · rintro ⟨inner, isChild, found⟩
        obtain ⟨entries, rfl, isEntry⟩ := child?_eq_some_iff.1 isChild
        exact .entry isEntry ((ih names).1 found)
      · rintro (_ | ⟨isEntry, deeper⟩)
        exact ⟨_, child?_eq_some_iff.2 ⟨_, rfl, isEntry⟩, (ih names).2 deeper⟩

/-- **Following a path of names finds what is there.** -/
theorem follow?_eq_some_iff (names : ∀ segment ∈ path, IsName segment) :
    tree.follow? path = some target ↔ Holds tree path target :=
  followFrom_eq_some_iff names

/-! ## Paths with points -/

lemma followFrom_concat (isName : IsName name) :
    followFrom outer tree (path ++ [name]) = some target ↔
    ∃ inner, followFrom outer tree path = some inner ∧ inner.child? name = some target := by
  induction path generalizing tree outer with
  | nil =>
      rw [nil_append, followFrom_name isName]
      simp [followFrom]
  | cons segment rest ih =>
      rw [cons_append]
      simp only [followFrom_cons_eq_some_iff, ih]
      grind

/-- A name behind a path leads to an entry of what the path leads to. -/
lemma follow?_concat (isName : IsName name) : tree.follow? (path ++ [name]) = some target ↔
    ∃ inner, tree.follow? path = some inner ∧ inner.child? name = some target :=
  followFrom_concat isName

/-- Whatever is found behind a path, something is found at the path. -/
lemma exists_followFrom_of_append {more : List String}
    (leads : followFrom outer tree (path ++ more) = some target) :
    ∃ inner, followFrom outer tree path = some inner := by
  induction path generalizing tree outer with
  | nil => exact ⟨tree, rfl⟩
  | cons segment rest ih =>
      rw [cons_append] at leads
      obtain ⟨isDirectory, ⟨stays, found⟩ | ⟨isUp, around, further, rfl, found⟩
        | ⟨isName, child, isChild, found⟩⟩ :=
        followFrom_cons_eq_some_iff.1 leads
      · obtain ⟨inner, found⟩ := ih found
        exact ⟨inner, followFrom_cons_eq_some_iff.2 ⟨isDirectory, .inl ⟨stays, found⟩⟩⟩
      · obtain ⟨inner, found⟩ := ih found
        exact ⟨inner, followFrom_cons_eq_some_iff.2 ⟨isDirectory,
          .inr (.inl ⟨isUp, around, further, rfl, found⟩)⟩⟩
      · obtain ⟨inner, found⟩ := ih found
        exact ⟨inner, followFrom_cons_eq_some_iff.2 ⟨isDirectory,
          .inr (.inr ⟨isName, child, isChild, found⟩)⟩⟩

lemma follow?_append_eq_none (missing : tree.follow? path = none) (more : List String) :
    tree.follow? (path ++ more) = none := by
  rw [Option.eq_none_iff_forall_ne_some]
  intro target found
  obtain ⟨inner, isFound⟩ := exists_followFrom_of_append found
  cases missing.symm.trans isFound

/-- What holds of a tree and those around it, and is passed on to entries, holds of what a path
leads to. -/
lemma followFrom_induction (Good : FileTree → Prop)
    (child : ∀ tree name inner, Good tree → tree.child? name = some inner → Good inner)
    (around : ∀ tree ∈ outer, Good tree) (itself : Good tree)
    (leads : followFrom outer tree path = some target) : Good target := by
  induction path generalizing tree outer with
  | nil => exact Option.some.inj leads ▸ itself
  | cons segment rest ih =>
      rcases (followFrom_cons_eq_some_iff.1 leads).2 with
        ⟨-, found⟩ | ⟨-, further, others, rfl, found⟩ | ⟨-, inner, isChild, found⟩
      · exact ih around itself found
      · obtain ⟨isGood, around⟩ := forall_mem_cons.1 around
        exact ih around isGood found
      · exact ih (forall_mem_cons.2 ⟨itself, around⟩) (child _ _ _ itself isChild) found

lemma isName_of_followFrom (isFile : target.isDirectory = false)
    (around : ∀ tree ∈ outer, tree.isDirectory = true)
    (leads : followFrom outer tree (path ++ [name]) = some target) : IsName name := by
  induction path generalizing tree outer with
  | nil =>
      obtain ⟨isDirectory, ⟨-, here⟩ | ⟨-, further, others, rfl, here⟩ | ⟨isName, -⟩⟩ :=
        followFrom_cons_eq_some_iff.1 leads
      · rw [followFrom, Option.some_inj] at here
        rw [here, isFile] at isDirectory
        cases isDirectory
      · rw [followFrom, Option.some_inj] at here
        rw [forall_mem_cons, here, isFile] at around
        cases around.1
      · exact isName
  | cons segment rest ih =>
      obtain ⟨isDirectory, ⟨-, found⟩ | ⟨-, further, others, rfl, found⟩ | ⟨-, inner, -, found⟩⟩ :=
        followFrom_cons_eq_some_iff.1 leads
      · exact ih around found
      · exact ih (forall_mem_cons.1 around).2 found
      · exact ih (forall_mem_cons.2 ⟨isDirectory, around⟩) found

/-- A file is found by a name, since every other segment leads to a directory. -/
lemma isName_of_follow? (isFile : target.isDirectory = false)
    (found : tree.follow? (path ++ [name]) = some target) : IsName name :=
  isName_of_followFrom isFile (forall_mem_nil _) found

/-! ## Names -/

mutual

/-- The names of all entries in a tree. -/
def names : FileTree → List String
  | file _ => []
  | directory entries => namesOfEntries entries

/-- The names of some entries and of all entries in them. -/
def namesOfEntries : List (String × FileTree) → List String
  | [] => []
  | (name, tree) :: rest => name :: (names tree ++ namesOfEntries rest)

end

lemma mem_namesOfEntries {entries : List (String × FileTree)} (mem : name ∈ entries.map (·.1)) :
    name ∈ namesOfEntries entries := by
  induction entries with
  | nil => cases mem
  | cons entry rest ih =>
      rw [namesOfEntries, mem_cons, mem_append]
      rcases mem_cons.1 mem with here | later
      · exact .inl here
      · exact .inr (.inr (ih later))

lemma names_subset_of_lookup {entries : List (String × FileTree)}
    (found : entries.lookup name = some inner) :
    inner.names ⊆ namesOfEntries entries := by
  induction entries with
  | nil => cases found
  | cons entry rest ih =>
      intro isName mem
      rw [namesOfEntries, mem_cons, mem_append]
      rw [lookup_cons] at found
      split at found
      · exact .inr (.inl (Option.some.inj found ▸ mem))
      · exact .inr (.inr (ih found mem))

/-- The names that lead to a place are names of entries. -/
lemma mem_names_of_holds (holds : Holds tree place target) : ∀ name ∈ place, name ∈ tree.names := by
  induction holds with
  | here => exact forall_mem_nil _
  | entry isEntry _ ih =>
      obtain ⟨before, after, split, -⟩ := lookup_eq_some_iff.1 isEntry
      have isName :=
        mem_namesOfEntries (split ▸ mem_map_of_mem (mem_append_right before mem_cons_self))
      rw [forall_mem_cons, names]
      exact ⟨isName, fun name mem => names_subset_of_lookup isEntry (ih name mem)⟩

/-- Whatever a path leads to, its entries are entries of the tree. -/
lemma mem_names_of_follow? {entries : List (String × FileTree)}
    (found : tree.follow? path = some (directory entries))
    (mem : name ∈ entries.map (·.1)) : name ∈ tree.names := by
  have subset : (directory entries).names ⊆ tree.names := by
    refine followFrom_induction (·.names ⊆ tree.names) ?_ (forall_mem_nil _)
      (List.Subset.refl _) found
    intro outer segment inner isInside isChild
    obtain ⟨others, rfl, found⟩ := child?_eq_some_iff.1 isChild
    exact List.Subset.trans (names_subset_of_lookup found) isInside
  exact subset (mem_namesOfEntries mem)

/-! ## Paths of files -/

mutual

/-- No directory in a tree has two entries of one name. -/
def HasDistinctNames : FileTree → Prop
  | file _ => True
  | directory entries => (entries.map (·.1)).Nodup ∧ EntriesHaveDistinctNames entries

/-- No directory in some entries has two entries of one name. -/
def EntriesHaveDistinctNames : List (String × FileTree) → Prop
  | [] => True
  | (_, tree) :: rest => HasDistinctNames tree ∧ EntriesHaveDistinctNames rest

end

mutual

/-- The path of a file leads to a file. -/
lemma exists_holds_of_mem_paths {enters : String → Bool} :
    ∀ {tree : FileTree}, tree.HasDistinctNames →
    ∀ path ∈ tree.paths enters, ∃ bytes, Holds tree path (file bytes)
  | file bytes, _, path, mem => by
      rw [paths, mem_singleton] at mem
      exact ⟨bytes, mem ▸ .here _⟩
  | directory entries, distinct, path, mem => by
      rw [HasDistinctNames] at distinct
      rw [paths] at mem
      obtain ⟨name, inner, below, isEntry, rfl, bytes, deeper⟩ :=
        exists_entry_of_mem_pathsOfEntries distinct.2 path mem
      exact ⟨bytes, .entry (lookup_of_mem distinct.1 isEntry) deeper⟩

lemma exists_entry_of_mem_pathsOfEntries {enters : String → Bool} :
    ∀ {entries : List (String × FileTree)},
    EntriesHaveDistinctNames entries → ∀ path ∈ pathsOfEntries enters entries,
    ∃ name inner below, (name, inner) ∈ entries ∧ path = name :: below
      ∧ ∃ bytes, Holds inner below (file bytes)
  | [], _, path, mem => by
      rw [pathsOfEntries] at mem
      cases mem
  | (name, tree) :: rest, distinct, path, mem => by
      rw [EntriesHaveDistinctNames] at distinct
      rw [pathsOfEntries, mem_append] at mem
      rcases mem with here | later
      · split at here
        · obtain ⟨below, isBelow, rfl⟩ := mem_map.1 here
          exact ⟨name, tree, below, mem_cons_self, rfl,
            exists_holds_of_mem_paths distinct.1 below isBelow⟩
        · cases here
      · obtain ⟨name, inner, below, isEntry, split, deeper⟩ :=
          exists_entry_of_mem_pathsOfEntries distinct.2 path later
        exact ⟨name, inner, below, mem_cons_of_mem _ isEntry, split, deeper⟩

end

end DocAudit.FileTree
