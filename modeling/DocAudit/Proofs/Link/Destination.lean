import DocAudit.Link.Check
import DocAudit.Proofs.Link.Target
import Mathlib.Data.Bool.AllAny

/-!
# Where links lead

`LinkIndex.Outcome` lists all that a check of a link can find.  A link has a destination exactly if
it has a path, the path stays inside of the set, and there is something where it leads.  Since the
walk takes only names with it, a destination is a path of names, and a link points outside exactly
if its path climbs (`LinkIndex.links_stay_inside`).
-/

namespace DocAudit.LinkIndex

open List LinkTarget FileTree

variable {index : LinkIndex} {source target destination : String} {path : List Char}
  {bookmark : Option String} {place : List String} {found : FileTree}

/-! ## Bookmarks -/

/-- A bookmark is looked for among those of a page. -/
lemma checkBookmarkOf_cases (index : LinkIndex) (page name : String) :
    (index.bookmarks.lookup page = none ∧ index.checkBookmarkOf page name = .bookmarkUnknown)
      ∨ ∃ known, index.bookmarks.lookup page = some known
          ∧ (name ∈ known ∧ index.checkBookmarkOf page name = .valid
            ∨ name ∉ known ∧ index.checkBookmarkOf page name
                = .bookmarkMissing ((Text.suggest name known).map ("#" ++ ·))) := by
  rw [checkBookmarkOf]
  cases lookup page index.bookmarks with
  | none => exact .inl ⟨rfl, rfl⟩
  | some known =>
      refine .inr ⟨known, rfl, ?_⟩
      by_cases mem : name ∈ known <;> simp [checkBookmark, mem]

lemma checkBookmarkOf_ne (index : LinkIndex) (page name : String) :
    index.checkBookmarkOf page name ≠ .outside
    ∧ ∀ suggestion, index.checkBookmarkOf page name ≠ .notFound suggestion := by
  rcases index.checkBookmarkOf_cases page name with ⟨-, unknown⟩
    | ⟨known, -, ⟨-, valid⟩ | ⟨-, missing⟩⟩
  · simp [unknown]
  · simp [valid]
  · simp [missing]

/-- The bookmark of a link to a page is looked for unless it is empty. -/
lemma checkBookmarkAt_of_page (index : LinkIndex) (destination : String) {name : String}
    (notEmpty : name ≠ "") (isPage : found.isDirectory = false) :
    index.checkBookmarkAt destination found (some name)
      = index.checkBookmarkOf destination name := by
  have kept : (some name).filter (!·.isEmpty) = some name :=
    Option.filter_eq_some_iff.2 ⟨rfl, by simpa using notEmpty⟩
  simp only [checkBookmarkAt, kept, isPage, Bool.false_eq_true, if_false]

/-- The bookmark of any other link to something that exists is good. -/
lemma checkBookmarkAt_cases (index : LinkIndex) (destination : String) (found : FileTree)
    (bookmark : Option String) :
    index.checkBookmarkAt destination found bookmark = .valid
      ∨ ∃ name, bookmark = some name ∧ name ≠ "" ∧ found.isDirectory = false
          ∧ index.checkBookmarkAt destination found bookmark
            = index.checkBookmarkOf destination name := by
  cases kept : bookmark.filter (!·.isEmpty) with
  | none => exact .inl (by rw [checkBookmarkAt, kept])
  | some name =>
      obtain ⟨rfl, notEmpty⟩ := Option.filter_eq_some_iff.1 kept
      have notEmpty : name ≠ "" := by simpa using notEmpty
      cases isDirectory : found.isDirectory with
      | true => exact .inl (by simp only [checkBookmarkAt, kept, isDirectory, if_true])
      | false =>
          exact .inr ⟨name, rfl, notEmpty, rfl,
            checkBookmarkAt_of_page index destination notEmpty isDirectory⟩

/-- A link to something that exists is neither outside of the set nor dead. -/
lemma checkBookmarkAt_ne (index : LinkIndex) (destination : String) (found : FileTree)
    (bookmark : Option String) :
    index.checkBookmarkAt destination found bookmark ≠ .outside
      ∧ ∀ suggestion, index.checkBookmarkAt destination found bookmark ≠ .notFound suggestion := by
  rcases index.checkBookmarkAt_cases destination found bookmark with valid | ⟨name, -, -, -, same⟩
  · simp [valid]
  · rw [same]
    exact index.checkBookmarkOf_ne destination name

/-! ## Links -/

/-- All that a check of a link can find. -/
inductive Outcome (index : LinkIndex) (source target : String) : LinkCheck → Prop
  | malformed (isRead : read target = .malformed) : Outcome index source target ⟨.malformed, none⟩
  | external (isRead : read target = .external) : Outcome index source target ⟨.external, none⟩
  | samePage {name : String} (isRead : read target = .samePage name) :
      Outcome index source target ⟨index.checkBookmarkOf source name, none⟩
  | outside {path : List Char} {bookmark : Option String}
      (isRead : read target = .relative path bookmark)
      (leaves : destination? source path = none) : Outcome index source target ⟨.outside, none⟩
  | missing {path : List Char} {bookmark : Option String} {place : List String}
      (isRead : read target = .relative path bookmark)
      (leads : destination? source path = some place)
      (isMissing : index.files.follow? place = none) :
      Outcome index source target
        ⟨.notFound ((index.nearFile? place).map (withFileName path bookmark)), none⟩
  | found {path : List Char} {bookmark : Option String} {place : List String} {found : FileTree}
      (isRead : read target = .relative path bookmark)
      (leads : destination? source path = some place)
      (isFound : index.files.follow? place = some found) :
      Outcome index source target
        ⟨index.checkBookmarkAt ("/".intercalate place) found bookmark, some ("/".intercalate place)⟩

lemma outcome_check (index : LinkIndex) (source target : String) :
    Outcome index source target (index.check source target) := by
  rw [check]
  cases isRead : read target with
  | malformed => exact .malformed isRead
  | external => exact .external isRead
  | samePage name => exact .samePage isRead
  | relative path bookmark =>
      simp only [checkPath]
      split
      · next leaves => exact .outside isRead leaves
      · next place leads =>
          split
          · next isMissing => exact .missing isRead leads isMissing
          · next found isFound => exact .found isRead leads isFound

lemma check_of_found (isRead : read target = .relative path bookmark)
    (leads : destination? source path = some place)
    (isFound : index.files.follow? place = some found) : index.check source target
      = ⟨index.checkBookmarkAt ("/".intercalate place) found bookmark,
        some ("/".intercalate place)⟩ := by
  simp only [check, isRead, checkPath, leads, isFound]

/-- A link has a destination if it has a path that leads to something. -/
lemma destination_eq_some_iff : (index.check source target).destination = some destination ↔
    ∃ path bookmark place found, read target = .relative path bookmark
      ∧ destination? source path = some place
      ∧ index.files.follow? place = some found ∧ destination = "/".intercalate place := by
  constructor
  · intro leadsThere
    have outcome := index.outcome_check source target
    generalize index.check source target = checked at outcome leadsThere
    cases outcome with
    | found isRead leads isFound =>
        exact ⟨_, _, _, _, isRead, leads, isFound, (Option.some.inj leadsThere).symm⟩
    | _ => cases leadsThere
  · rintro ⟨path, bookmark, place, found, isRead, leads, isFound, rfl⟩
    rw [check_of_found isRead leads isFound]

/-- A link points outside if it has a path that leaves the set. -/
lemma result_eq_outside_iff : (index.check source target).result = .outside ↔
    ∃ path bookmark, read target = .relative path bookmark ∧ destination? source path = none := by
  constructor
  · intro isOutside
    have outcome := index.outcome_check source target
    generalize index.check source target = checked at outcome isOutside
    cases outcome with
    | outside isRead leaves => exact ⟨_, _, isRead, leaves⟩
    | found => exact absurd isOutside (index.checkBookmarkAt_ne _ _ _).1
    | samePage => exact absurd isOutside (index.checkBookmarkOf_ne _ _).1
    | _ => cases isOutside
  · rintro ⟨path, bookmark, isRead, leaves⟩
    simp only [check, isRead, checkPath, leaves]

/-! ## Inside of the set -/

/-- A page with a path of names is in directories with names. -/
lemma isName_of_mem_base (isPath : ∀ segment ∈ segments source.toList, IsName segment)
    (path : List Char) :
    ∀ segment ∈ base source path, IsName segment ∧ '/' ∉ segment.toList := by
  rw [base]
  split
  · exact forall_mem_nil _
  · intro segment mem
    have inPath := dropLast_subset _ (mem_reverse.1 mem)
    exact ⟨isPath segment inPath, slash_not_mem_of_mem_segments segment inPath⟩

lemma length_base (source : String) (path : List Char) : (base source path).length
    = if path.head? = some '/' then 0 else (segments source.toList).length - 1 := by
  rw [base]
  simp only [beq_iff_eq]
  split <;> simp

/-- **Links stay inside of the set.**  A destination consists of names of entries, and there is
something in the tree where they lead; no name leads to the root itself.  A link points outside
exactly if it has a path, decoded and without query and bookmark, that climbs from the directory of
the page, or from the root if it starts with a slash. -/
theorem links_stay_inside (index : LinkIndex) (source target : String)
    (isPath : ∀ segment ∈ segments source.toList, IsName segment) :
    (∀ destination, (index.check source target).destination = some destination →
      ∃ place found, destination = "/".intercalate place ∧ index.files.Holds place found
        ∧ ∀ segment ∈ place, IsName segment ∧ '/' ∉ segment.toList)
    ∧ ((index.check source target).result = .outside ↔
        HasPath (Text.trim target.toList)
          ∧ Climbs (if (pathOf (Text.trim target.toList)).head? = some '/' then 0
              else (segments source.toList).length
                - 1) (segments (pathOf (Text.trim target.toList)))) := by
  constructor
  · intro destination leadsThere
    obtain ⟨path, bookmark, place, found, -, leads, isFound, rfl⟩ :=
      destination_eq_some_iff.1 leadsThere
    have names : ∀ segment ∈ place, IsName segment ∧ '/' ∉ segment.toList := by
      rw [destination?, Option.map_eq_some_iff] at leads
      obtain ⟨ended, ends, rfl⟩ := leads
      intro segment mem
      refine forall_mem_of_walk (isName_of_mem_base isPath path) ?_ ends segment (mem_reverse.1 mem)
      exact fun segment mem isName => ⟨isName, slash_not_mem_of_mem_segments segment mem⟩
    exact ⟨place, found, rfl,
      (follow?_eq_some_iff fun segment mem => (names segment mem).1).1 isFound, names⟩
  · have climbs (path : List Char) : destination? source path = none ↔
        Climbs (if path.head? = some '/' then 0 else (segments source.toList).length - 1)
          (segments path) := by
      rw [destination?, Option.map_eq_none_iff, walk_eq_none_iff, length_base]
    rw [result_eq_outside_iff]
    constructor
    · rintro ⟨path, bookmark, isRead, leaves⟩
      obtain ⟨hasPath, rfl, -⟩ := read_eq_relative_iff.1 isRead
      exact ⟨hasPath, (climbs _).1 leaves⟩
    · rintro ⟨hasPath, leaves⟩
      exact ⟨_, _, read_of_hasPath hasPath, (climbs _).2 leaves⟩

/-- An escaped slash is a slash, so one link leads to the page next to the directory; the other one
leaves the set, though it would come back to its own page. -/
theorem escaped_links_stay_inside :
    let index : LinkIndex :=
      ⟨.directory [("b.md", .file ⟨#[]⟩), ("docs", .directory [("a.md", .file ⟨#[]⟩)])], []⟩
    (∀ segment ∈ segments "docs/a.md".toList, IsName segment)
      ∧ (index.check "docs/a.md" "..%2Fb.md").destination = some "b.md"
      ∧ (∃ place found, "b.md" = "/".intercalate place ∧ index.files.Holds place found
          ∧ ∀ segment ∈ place, IsName segment ∧ '/' ∉ segment.toList)
      ∧ Climbs 1 (segments (pathOf "../%2E%2E/docs/a.md".toList))
      ∧ (index.check "docs/a.md" "../%2E%2E/docs/a.md").result = .outside := by
  intro index
  have isPath : ∀ segment ∈ segments "docs/a.md".toList, IsName segment := by decide +kernel
  have leads : (index.check "docs/a.md" "..%2Fb.md").destination = some "b.md" := by decide +kernel
  have decoded : segments (pathOf "../%2E%2E/docs/a.md".toList) = ["..", "..", "docs", "a.md"] := by
    decide +kernel
  have climbs : Climbs 1 (segments (pathOf "../%2E%2E/docs/a.md".toList)) := by
    rw [decoded]
    exact ⟨["..", ".."], prefix_append _ _, by decide⟩
  have trimmed : Text.trim "../%2E%2E/docs/a.md".toList = "../%2E%2E/docs/a.md".toList := by
    decide +kernel
  have hasPath : HasPath "../%2E%2E/docs/a.md".toList :=
    ⟨by decide +kernel,
      all_iff_forall_prop.1 (by decide +kernel), by decide +kernel, by decide +kernel⟩
  have opened : (if (pathOf "../%2E%2E/docs/a.md".toList).head? = some '/' then 0
      else (segments "docs/a.md".toList).length - 1) = 1 := by
    decide +kernel
  refine ⟨isPath, leads, (links_stay_inside index "docs/a.md" "..%2Fb.md" isPath).1 _ leads, climbs,
    (links_stay_inside index "docs/a.md" "../%2E%2E/docs/a.md" isPath).2.2 ?_⟩
  rw [trimmed, opened]
  exact ⟨hasPath, climbs⟩

end DocAudit.LinkIndex
