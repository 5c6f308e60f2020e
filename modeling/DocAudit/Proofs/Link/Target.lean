import DocAudit.Link.Target
import DocAudit.Proofs.FileTree
import DocAudit.Proofs.Text.PercentEncoding
import DocAudit.Proofs.Text.Split
import DocAudit.Proofs.Text.Untouched

/-!
# What link targets say

A target is a path unless there is a blank in it, it starts with a scheme, or it is a bookmark of
the same page (`LinkTarget.read_eq_relative_iff`).  The path does not depend on the bookmark behind
it (`LinkTarget.read_withFragment_of_relative`), and a literal path is read as it is
(`LinkTarget.IsLiteral.read_eq`).  Where it leads is found by a walk along its segments.  The walk
leaves the set exactly if the path climbs, that is, goes up more often than directories are open at
some point (`LinkTarget.walk_eq_none_iff`).
-/

namespace DocAudit.LinkTarget

open List FileTree

variable {text path before after : List Char} {target source : String} {bookmark : Option String}

/-! ## Schemes -/

lemma hasScheme_of_not_mem (absent : ':' ∉ text) : hasScheme text = false := by
  rw [hasScheme, Text.cutFirst_eq_none absent]

lemma hasScheme_cons {c : Char} (noLetter : c.isAlpha = false) (rest : List Char) :
    hasScheme (c :: rest) = false := by
  by_cases mem : ':' ∈ c :: rest
  · obtain ⟨scheme, behind, split, absent⟩ := eq_append_cons_of_mem mem
    rw [split, hasScheme, Text.cutFirst_append absent]
    cases scheme with
    | nil => rfl
    | cons first others =>
        obtain ⟨rfl, -⟩ := cons.inj split
        simp [noLetter]
  · exact hasScheme_of_not_mem mem

/-- What stands behind a number sign makes no scheme. -/
lemma hasScheme_append_sign (before after : List Char) :
    hasScheme (before ++ '#' :: after) = hasScheme before := by
  by_cases inside : ':' ∈ before
  · obtain ⟨scheme, rest, rfl, absent⟩ := eq_append_cons_of_mem inside
    rw [append_assoc, cons_append, hasScheme, hasScheme, Text.cutFirst_append absent,
      Text.cutFirst_append absent]
  · rw [hasScheme_of_not_mem inside]
    by_cases behind : ':' ∈ after
    · obtain ⟨name, rest, rfl, absent⟩ := eq_append_cons_of_mem behind
      -- the scheme would have the number sign in it
      have cut : Text.cutFirst ':' (before ++ '#' :: (name ++ ':' :: rest))
          = some (before ++ '#' :: name, rest) := by
        rw [← cons_append, ← append_assoc]
        refine Text.cutFirst_append ?_ rest
        simp [inside, absent]
      have noSchemeChar : isSchemeChar '#' = false := by decide
      rw [hasScheme, cut]
      simp [noSchemeChar]
    · exact hasScheme_of_not_mem (by simp [inside, behind])

/-! ## Reading -/

/-- A text with a path in it: one word that starts neither with a scheme nor with a number sign. -/
structure HasPath (text : List Char) : Prop where
  notEmpty : text ≠ []
  noBlank : ∀ c ∈ text, Text.isBlank c = false
  noScheme : hasScheme text = false
  noSign : text.head? ≠ some '#'

/-- The path in a text, without the bookmark and the query behind it, decoded. -/
def pathOf (text : List Char) : List Char :=
  decodedPath (text.takeWhile (· != '#'))

/-- The bookmark behind the path in a text. -/
def bookmarkOf? (text : List Char) : Option String :=
  (Text.cutFirst '#' text).map fun (_, name) => .ofList name

lemma decodedPath_eq_self (noQuery : '?' ∉ path) (noEscape : Text.percentDecode path = path) :
    decodedPath path = path := by
  rw [decodedPath, Text.takeWhile_of_not_mem noQuery, noEscape]

lemma pathOf_append (absent : '#' ∉ before) (after : List Char) :
    pathOf (before ++ '#' :: after) = decodedPath before := by
  rw [pathOf, Text.takeWhile_append_cons absent]

lemma pathOf_of_not_mem (absent : '#' ∉ text) : pathOf text = decodedPath text := by
  rw [pathOf, Text.takeWhile_of_not_mem absent]

lemma bookmarkOf?_append (absent : '#' ∉ before) (after : List Char) :
    bookmarkOf? (before ++ '#' :: after) = some (.ofList after) := by
  rw [bookmarkOf?, Text.cutFirst_append absent, Option.map_some]

lemma bookmarkOf?_of_not_mem (absent : '#' ∉ text) : bookmarkOf? text = none := by
  rw [bookmarkOf?, Text.cutFirst_eq_none absent, Option.map_none]

lemma read_of_isBlank (blank : (Text.trim target.toList).any Text.isBlank = true) :
    read target = .malformed := by
  rw [read]
  exact if_pos (by rw [blank, Bool.or_true])

lemma read_sign {name : List Char} (trimmed : Text.trim target.toList = '#' :: name)
    (noBlank : ∀ c ∈ name, Text.isBlank c = false) : read target = .samePage (.ofList name) := by
  have noneBlank : ('#' :: name).any Text.isBlank = false := by
    rw [any_eq_false]
    simp only [mem_cons, forall_eq_or_imp, Bool.not_eq_true]
    exact ⟨by decide, noBlank⟩
  have noScheme : hasScheme ('#' :: name) = false := hasScheme_cons (by decide) name
  rw [read, trimmed]
  simp [noneBlank, noScheme]

lemma read_of_hasPath (h : HasPath (Text.trim target.toList)) : read target
    = .relative (pathOf (Text.trim target.toList)) (bookmarkOf? (Text.trim target.toList)) := by
  rw [read]
  generalize Text.trim target.toList = text at h
  have notEmpty : text.isEmpty = false := isEmpty_eq_false_iff.2 h.notEmpty
  have noneBlank : text.any Text.isBlank = false := by
    rw [any_eq_false]
    simpa using h.noBlank
  simp only [notEmpty, noneBlank, h.noScheme, Bool.or_self, Bool.false_eq_true, if_false]
  split
  · exact absurd head?_cons h.noSign
  · by_cases mem : '#' ∈ text
    · obtain ⟨before, after, rfl, absent⟩ := eq_append_cons_of_mem mem
      rw [pathOf_append absent, bookmarkOf?_append absent, Text.cutFirst_append absent]
    · rw [pathOf_of_not_mem mem, bookmarkOf?_of_not_mem mem, Text.cutFirst_eq_none mem]

/-- All that a target can be. -/
lemma read_cases (target : String) :
    read target = .malformed ∨ read target = .external
      ∨ (∃ name, Text.trim target.toList = '#' :: name ∧ (∀ c ∈ name, Text.isBlank c = false))
      ∨ HasPath (Text.trim target.toList) := by
  by_cases bad : (Text.trim target.toList).isEmpty || (Text.trim target.toList).any Text.isBlank
  · exact .inl (by rw [read]; exact if_pos bad)
  · by_cases scheme : hasScheme (Text.trim target.toList) = true
    · refine .inr (.inl ?_)
      rw [read]
      simp only [bad, scheme, if_true]
      rfl
    · rw [Bool.not_eq_true, Bool.or_eq_false_iff, isEmpty_eq_false_iff, any_eq_false] at bad
      obtain ⟨notEmpty, noBlank⟩ := bad
      by_cases sign : (Text.trim target.toList).head? = some '#'
      · obtain ⟨name, split⟩ := head?_eq_some_iff.1 sign
        refine .inr (.inr (.inl ⟨name, split, fun c mem => ?_⟩))
        simpa using noBlank c (split ▸ mem_cons_of_mem _ mem)
      · exact .inr (.inr (.inr ⟨notEmpty, by simpa using noBlank, by simpa using scheme, sign⟩))

/-- **A target is a path** unless there is a blank in it, it starts with a scheme, or it is a
bookmark. -/
theorem read_eq_relative_iff : read target = .relative path bookmark ↔
    HasPath (Text.trim target.toList) ∧ pathOf (Text.trim target.toList) = path
      ∧ bookmarkOf? (Text.trim target.toList) = bookmark := by
  constructor
  · intro isRead
    rcases read_cases target with malformed | external | ⟨name, trimmed, noBlank⟩ | h
    · rw [malformed] at isRead
      cases isRead
    · rw [external] at isRead
      cases isRead
    · rw [read_sign trimmed noBlank] at isRead
      cases isRead
    · rw [read_of_hasPath h] at isRead
      exact ⟨h, relative.inj isRead⟩
  · rintro ⟨h, rfl, rfl⟩
    exact read_of_hasPath h

/-- A target is a bookmark of the same page if it starts with a number sign and has no blank in
it. -/
theorem read_eq_samePage_iff {name : String} : read target = .samePage name ↔
    Text.trim target.toList = '#' :: name.toList ∧ ∀ c ∈ name.toList, Text.isBlank c = false := by
  constructor
  · intro isRead
    rcases read_cases target with malformed | external | ⟨rest, trimmed, noBlank⟩ | h
    · rw [malformed] at isRead
      cases isRead
    · rw [external] at isRead
      cases isRead
    · rw [read_sign trimmed noBlank] at isRead
      cases isRead
      rw [String.toList_ofList]
      exact ⟨trimmed, noBlank⟩
    · rw [read_of_hasPath h] at isRead
      cases isRead
  · rintro ⟨trimmed, noBlank⟩
    rw [read_sign trimmed noBlank, String.ofList_toList]

/-- The bookmark behind a path can be replaced. -/
lemma HasPath.replaceBookmark (h : HasPath (before ++ '#' :: after)) {name : List Char}
    (noBlank : ∀ c ∈ name, Text.isBlank c = false) : HasPath (before ++ '#' :: name) := by
  have notEmpty : before ≠ [] := by
    rintro rfl
    exact h.noSign rfl
  refine ⟨by simp, ?_, ?_, ?_⟩
  · rw [forall_mem_append, forall_mem_cons]
    exact ⟨(forall_mem_append.1 h.noBlank).1, by decide, noBlank⟩
  · rw [hasScheme_append_sign, ← hasScheme_append_sign before after]
    exact h.noScheme
  · have noSign := h.noSign
    rwa [head?_append_of_ne_nil _ notEmpty] at noSign ⊢

lemma not_isBlank_of_bookmarkOf? (noBlank : ∀ c ∈ text, Text.isBlank c = false) {name : String}
    (isBookmark : bookmarkOf? text = some name) : ∀ c ∈ name.toList, Text.isBlank c = false := by
  by_cases mem : '#' ∈ text
  · obtain ⟨before, after, rfl, absent⟩ := eq_append_cons_of_mem mem
    rw [bookmarkOf?_append absent] at isBookmark
    cases isBookmark
    rw [String.toList_ofList]
    exact (forall_mem_cons.1 (forall_mem_append.1 noBlank).2).2
  · rw [bookmarkOf?_of_not_mem mem] at isBookmark
    cases isBookmark

/-! ## Other fragments -/

/-- A target with another fragment, which is the number sign and all behind it. -/
def withFragment (target fragment : String) : String :=
  .ofList (target.toList.takeWhile (· != '#')) ++ fragment

/-- The text is trimmed on each side of a number sign. -/
lemma trim_sign (before after : List Char) :
    Text.trim (before ++ '#' :: after) = Text.trimStart before ++ '#' :: Text.trimEnd after :=
  Text.trimBy_append_cons (by decide) before after

lemma trim_withFragment (mem : '#' ∈ Text.trim target.toList) : ∃ before after, '#' ∉ before
    ∧ Text.trim target.toList = before ++ '#' :: after
    ∧ ∀ name : String, (∀ c ∈ name.toList, Text.isBlank c = false) →
        Text.trim (withFragment target ("#" ++ name)).toList = before ++ '#' :: name.toList := by
  obtain ⟨before, after, split, absent⟩ := eq_append_cons_of_mem (Text.trimBy_subset _ _ mem)
  refine ⟨Text.trimStart before, Text.trimEnd after, fun inside => ?_,
    split ▸ trim_sign before after,
    fun name noBlank => ?_⟩
  · exact absent (dropWhile_subset _ inside)
  · have written : (withFragment target ("#" ++ name)).toList = before ++ '#' :: name.toList := by
      rw [withFragment, split, Text.takeWhile_append_cons absent]
      simp
    rw [written, trim_sign, Text.trimEnd, Text.trimEndBy_eq_self noBlank]

lemma read_withFragment_of_samePage {word name : String} (isRead : read target = .samePage word)
    (noBlank : ∀ c ∈ name.toList, Text.isBlank c = false) :
    read (withFragment target ("#" ++ name)) = .samePage name := by
  obtain ⟨trimmed, -⟩ := read_eq_samePage_iff.1 isRead
  obtain ⟨before, after, absent, split, replaced⟩ := trim_withFragment (trimmed ▸ mem_cons_self)
  have isEmpty : before = [] := by
    cases before with
    | nil => rfl
    | cons first rest =>
        rw [trimmed] at split
        exact absurd ((cons.inj split).1 ▸ mem_cons_self) absent
  rw [read_eq_samePage_iff, replaced name noBlank, isEmpty]
  exact ⟨rfl, noBlank⟩

lemma read_withFragment_of_relative {word name : String}
    (isRead : read target = .relative path (some word))
    (noBlank : ∀ c ∈ name.toList, Text.isBlank c = false) :
    read (withFragment target ("#" ++ name)) = .relative path (some name) := by
  obtain ⟨hasPath, rfl, isBookmark⟩ := read_eq_relative_iff.1 isRead
  have mem : '#' ∈ Text.trim target.toList := by
    by_contra absent
    rw [bookmarkOf?_of_not_mem absent] at isBookmark
    cases isBookmark
  obtain ⟨before, after, absent, split, replaced⟩ := trim_withFragment mem
  rw [split] at hasPath
  rw [read_eq_relative_iff, replaced name noBlank, split, pathOf_append absent,
    pathOf_append absent, bookmarkOf?_append absent, String.ofList_toList]
  exact ⟨hasPath.replaceBookmark noBlank, rfl, rfl⟩

/-! ## Literal paths -/

/-- A path that can be written in a link as it is: nothing in it is cut off, decoded, or read as a
scheme. -/
structure IsLiteral (path : List Char) : Prop where
  noBlank : ∀ c ∈ path, Text.isBlank c = false
  noSign : '#' ∉ path
  noQuery : '?' ∉ path
  noEscape : Text.percentDecode path = path
  noScheme : hasScheme path = false

namespace IsLiteral

lemma of_plain (plain : ∀ c ∈ path, Text.isBlank c = false ∧ c ∉ ['%', '?', '#'])
    (noScheme : hasScheme path = false) :
    IsLiteral path where
  noBlank c mem := (plain c mem).1
  noSign mem := (plain _ mem).2 (by decide)
  noQuery mem := (plain _ mem).2 (by decide)
  noEscape := Text.percentDecode_eq_self fun mem => (plain _ mem).2 (by decide)
  noScheme := noScheme

/-- A path without a colon starts with no scheme. -/
lemma of_noColon (plain : ∀ c ∈ path, Text.isBlank c = false ∧ c ∉ [':', '#', '?', '%']) :
    IsLiteral path := by
  refine .of_plain (fun c mem => ⟨(plain c mem).1, ?_⟩) (hasScheme_of_not_mem fun mem => ?_)
  · have others := (plain c mem).2
    simp only [mem_cons, not_mem_nil, or_false, not_or] at others ⊢
    exact ⟨others.2.2.2, others.2.2.1, others.2.1⟩
  · exact (plain _ mem).2 (by decide)

lemma head_ne_sign (h : IsLiteral path) : path.head? ≠ some '#' :=
  fun sign => h.noSign (mem_of_mem_head? sign)

lemma read_eq (h : IsLiteral path) (notEmpty : path ≠ [])
    (trimmed : Text.trim target.toList = path) :
    read target = .relative path none := by
  have hasPath : HasPath path := ⟨notEmpty, h.noBlank, h.noScheme, h.head_ne_sign⟩
  rw [read_of_hasPath (trimmed ▸ hasPath), trimmed, pathOf_of_not_mem h.noSign,
    bookmarkOf?_of_not_mem h.noSign, decodedPath_eq_self h.noQuery h.noEscape]

lemma read_bookmark_eq (h : IsLiteral path) (notEmpty : path ≠ []) {name : List Char}
    (noBlank : ∀ c ∈ name, Text.isBlank c = false)
    (trimmed : Text.trim target.toList = path ++ '#' :: name) :
    read target = .relative path (some (.ofList name)) := by
  have hasPath : HasPath (path ++ '#' :: name) := by
    refine ⟨by simp, ?_, by rw [hasScheme_append_sign, h.noScheme], ?_⟩
    · rw [forall_mem_append, forall_mem_cons]
      exact ⟨h.noBlank, by decide, noBlank⟩
    · rw [head?_append_of_ne_nil _ notEmpty]
      exact h.head_ne_sign
  rw [read_of_hasPath (trimmed ▸ hasPath), trimmed, pathOf_append h.noSign,
    bookmarkOf?_append h.noSign, decodedPath_eq_self h.noQuery h.noEscape]

end IsLiteral

/-! ## Segments -/

lemma segments_ne_nil (path : List Char) : segments path ≠ [] := by
  rw [segments, ne_eq, map_eq_nil_iff]
  exact Text.splitAt_ne_nil '/' path

lemma slash_not_mem_of_mem_segments : ∀ segment ∈ segments path, '/' ∉ segment.toList := by
  rw [segments, forall_mem_map]
  intro piece isPiece
  rw [String.toList_ofList]
  exact Text.not_mem_of_mem_splitAt '/' path piece isPiece

lemma segments_append (before after : List Char) :
    segments (before ++ '/' :: after) = segments before ++ segments after := by
  rw [segments, Text.splitAt_append, map_append, segments, segments]

lemma segments_of_not_mem (absent : '/' ∉ path) : segments path = [.ofList path] := by
  rw [segments, Text.splitAt_of_not_mem absent, map_singleton]

/-- The name of the file of a page, which is the last segment of its path. -/
def fileName (source : String) : String :=
  (segments source.toList).getLast (segments_ne_nil _)

lemma dropLast_concat_fileName (source : String) :
    (segments source.toList).dropLast ++ [fileName source] = segments source.toList :=
  dropLast_concat_getLast _

lemma slash_not_mem_fileName (source : String) : '/' ∉ (fileName source).toList :=
  slash_not_mem_of_mem_segments _ (getLast_mem _)

/-- A path is its segments joined by slashes. -/
lemma intercalate_segments (path : String) : "/".intercalate (segments path.toList) = path := by
  rw [← String.toList_inj, String.toList_intercalate, segments, map_map]
  have same : String.toList ∘ String.ofList = id := funext fun piece => String.toList_ofList
  rw [same, map_id]
  exact Text.intercalate_splitAt '/' path.toList

/-- Segments without slashes are those of the path that they are joined to. -/
lemma segments_intercalate {place : List String} (nonempty : place ≠ [])
    (noSlash : ∀ segment ∈ place, '/' ∉ segment.toList) :
    segments ("/".intercalate place).toList = place := by
  have cut : Text.splitAt '/' (['/'].intercalate (place.map String.toList))
      = place.map String.toList :=
    Text.splitAt_intercalate (by simpa using nonempty) (by simpa using noSlash)
  have same : String.ofList ∘ String.toList = id := funext fun segment => String.ofList_toList
  have slash : "/".toList = ['/'] := rfl
  rw [String.toList_intercalate, segments, slash, cut, map_map, same, map_id]

/-- A path without a slash starts in the directory of the page. -/
lemma base_of_not_mem (absent : '/' ∉ path) (source : String) :
    base source path = (segments source.toList).dropLast.reverse := by
  have noSlash : (path.head? == some '/') = false := by
    rw [beq_eq_false_iff_ne]
    exact fun slash => absent (mem_of_mem_head? slash)
  rw [base, if_neg (by simp [noSlash])]

/-! ## Walking -/

variable {place ended segments others : List String} {segment : String}

lemma walk_stay (stays : segment = "" ∨ segment = ".") :
    walk place (segment :: others) = walk place others := by
  rw [walk.eq_def]
  rcases stays with rfl | rfl <;> rfl

lemma walk_name (isName : IsName segment) :
    walk place (segment :: others) = walk (segment :: place) others := by
  obtain ⟨notEmpty, notPoint, notPoints⟩ := isName
  rw [walk.eq_def]
  simp [notEmpty, notPoint, notPoints]

/-- A walk goes on where it has come to. -/
lemma walk_append (place segments others : List String) :
    walk place (segments ++ others) = (walk place segments).bind fun ended =>
      walk ended others := by
  induction segments generalizing place with
  | nil =>
      rw [nil_append, walk]
      rfl
  | cons segment rest ih =>
      rw [cons_append]
      rcases segment_cases segment with stays | rfl | isName
      · rw [walk_stay stays, walk_stay stays, ih]
      · cases place with
        | nil => rfl
        | cons last around => exact ih around
      · rw [walk_name isName, walk_name isName, ih]

/-- A walk along names goes down by all of them. -/
lemma walk_names (names : ∀ segment ∈ segments, IsName segment) (place : List String) :
    walk place segments = some (segments.reverse ++ place) := by
  induction segments generalizing place with
  | nil => rfl
  | cons segment rest ih =>
      obtain ⟨isName, names⟩ := forall_mem_cons.1 names
      rw [walk_name isName, ih names, reverse_cons, append_assoc, singleton_append]

/-- A walk comes to a place of names, and adds only names that it walks along. -/
lemma forall_mem_of_walk {Good : String → Prop} (before : ∀ segment ∈ place, Good segment)
    (along : ∀ segment ∈ segments, IsName segment → Good segment)
    (ends : walk place segments = some ended) :
    ∀ segment ∈ ended, Good segment := by
  induction segments generalizing place with
  | nil => exact Option.some.inj ends ▸ before
  | cons segment rest ih =>
      obtain ⟨here, later⟩ := forall_mem_cons.1 along
      rcases segment_cases segment with stays | rfl | isName
      · rw [walk_stay stays] at ends
        exact ih before later ends
      · cases place with
        | nil => cases ends
        | cons last around => exact ih (forall_mem_cons.1 before).2 later ends
      · rw [walk_name isName] at ends
        exact ih (forall_mem_cons.2 ⟨here isName, before⟩) later ends

/-! ## Climbing -/

/-- At some point a path has gone up more often than directories were open: those that it started
in, and those that it went down into. -/
def Climbs (opened : Nat) (segments : List String) : Prop :=
  ∃ start, start <+: segments ∧ opened + start.countP (IsName ·) < start.count ".."

lemma not_climbs_nil (opened : Nat) : ¬Climbs opened [] := by
  rintro ⟨start, isStart, climbs⟩
  rw [prefix_nil.1 isStart] at climbs
  exact Nat.not_lt_zero _ climbs

/-- A path climbs with some start behind its first segment, because the empty start does not
climb. -/
lemma climbs_cons_iff {opened : Nat} :
    Climbs opened (segment :: others) ↔ ∃ start, start <+: others ∧
    opened + (segment :: start).countP (IsName ·) < (segment :: start).count ".." := by
  constructor
  · rintro ⟨start, isStart, climbs⟩
    rcases prefix_cons_iff.1 isStart with rfl | ⟨behind, rfl, isBehind⟩
    · exact absurd climbs (Nat.not_lt_zero _)
    · exact ⟨behind, isBehind, climbs⟩
  · rintro ⟨start, isStart, climbs⟩
    exact ⟨segment :: start, prefix_cons_iff.2 (.inr ⟨start, rfl, isStart⟩), climbs⟩

lemma climbs_stay {opened : Nat} (stays : segment = "" ∨ segment = ".") :
    Climbs opened (segment :: others) ↔ Climbs opened others := by
  have noName : ¬IsName segment := fun isName => stays.elim isName.1 isName.2.1
  have notUp : segment ≠ ".." := by
    rintro rfl
    revert stays
    decide
  rw [climbs_cons_iff]
  simp [Climbs, noName, notUp, count_cons_of_ne]

lemma climbs_name {opened : Nat} (isName : IsName segment) :
    Climbs opened (segment :: others) ↔ Climbs (opened + 1) others := by
  rw [climbs_cons_iff]
  refine exists_congr fun start => and_congr_right fun _ => ?_
  rw [countP_cons_of_pos (by simpa using isName), count_cons_of_ne isName.2.2]
  omega

lemma climbs_up {opened : Nat} : Climbs (opened + 1) (".." :: others) ↔ Climbs opened others := by
  rw [climbs_cons_iff]
  refine exists_congr fun start => and_congr_right fun _ => ?_
  rw [countP_cons_of_neg (by decide), count_cons_self]
  omega

/-- **A walk leaves the set exactly if the path climbs,** even if it would come back. -/
theorem walk_eq_none_iff (place segments : List String) :
    walk place segments = none ↔ Climbs place.length segments := by
  induction segments generalizing place with
  | nil => simp [walk, not_climbs_nil]
  | cons segment rest ih =>
      rcases segment_cases segment with stays | rfl | isName
      · rw [walk_stay stays, ih, climbs_stay stays]
      · cases place with
        | nil =>
            have climbs : Climbs 0 (".." :: rest) := ⟨[".."], prefix_append [".."] rest, by decide⟩
            simpa [walk] using climbs
        | cons last around =>
            rw [length_cons, climbs_up]
            exact ih around
      · rw [walk_name isName, ih, length_cons, climbs_name isName]

end DocAudit.LinkTarget
