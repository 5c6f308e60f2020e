import DocAudit.Proofs.Route.Part
import DocAudit.Proofs.Text.Split
import DocAudit.Request
import Mathlib.Data.List.Basic

/-!
# Canonical routes

The parts of a route are non-empty, have no slashes in them, and stay as they are
(`isRoutePart_of_mem`): what is literal does not become variable in lower case, because no UUID
depends on the case of its letters.  So there are no two slashes next to each other in a route, and
the route is its own path (`isPath_ofTarget`), from which the same parts are read again
(`ofTarget_ofTarget`).

A path in which one variable segment is replaced by another one has the same parts.  It is still a
path, because the new segment separates what is before it from what is behind it
(`IsPath.replaceSegment`).
-/

namespace DocAudit.Route

open List Text

variable {c : Char} {text piece : List Char} {pieces : List (List Char)} {target : String}

/-! ## Paths -/

/-- Whether a character is part of a path: it starts neither a query nor a fragment. -/
def isOfPath (c : Char) : Bool :=
  c != '?' && c != '#'

lemma isOfPath_iff : isOfPath c = true ↔ c ≠ '?' ∧ c ≠ '#' := by
  rw [isOfPath, Bool.and_eq_true, bne_iff_ne, bne_iff_ne]

/-- A text that is its own path, as it has no query, fragment or scheme. -/
structure IsPath (text : List Char) : Prop where
  plain : ∀ c ∈ text, isOfPath c = true
  noScheme : ¬ "://".toList <:+: text

lemma path_of_noScheme (absent : ¬ "://".toList <:+: text) :
    path text = text.takeWhile isOfPath := by
  rw [path, cutAround_eq_none_iff.2 absent]
  rfl

lemma IsPath.path_eq (h : IsPath text) : path text = text := by
  rw [path_of_noScheme h.noScheme, takeWhile_eq_self_iff]
  exact h.plain

lemma isOfPath_of_mem_path (mem : c ∈ path text) : isOfPath c = true := by
  rw [path] at mem
  exact mem_takeWhile_imp mem

/-! ## Parts -/

/-- A part of a route. -/
structure IsRoutePart (piece : List Char) : Prop where
  nonempty : piece ≠ []
  noSlash : '/' ∉ piece
  plain : ∀ c ∈ piece, isOfPath c = true
  stays : part piece = piece

lemma isRoutePart_of_mem (mem : piece ∈ parts target) : IsRoutePart piece := by
  obtain ⟨segment, isWord, rfl⟩ := mem_map.1 mem
  obtain ⟨isSegment, nonempty⟩ := mem_filter.1 isWord
  have notOfPath : ∀ mark, isOfPath mark = false → mark ∉ segment := by
    intro mark noPart inside
    have isPart := isOfPath_of_mem_path ((infix_of_mem_splitAt isSegment).subset inside)
    rw [noPart] at isPart
    cases isPart
  refine ⟨part_ne_nil (by simpa using nonempty), ?_, fun c mem => isOfPath_iff.2 ⟨?_, ?_⟩,
    part_part segment⟩
  · exact mark_not_mem_part (by decide) (by decide) (by decide)
      (not_mem_of_mem_splitAt '/' _ segment isSegment)
  · rintro rfl
    exact mark_not_mem_part (by decide) (by decide) (by decide) (notOfPath '?' (by decide)) mem
  · rintro rfl
    exact mark_not_mem_part (by decide) (by decide) (by decide) (notOfPath '#' (by decide)) mem

lemma toList_ofTarget (target : String) :
    (ofTarget target).toList = '/' :: join ['/'] (parts target) :=
  String.toList_ofList

/-- A slash before the joined parts is a slash before each of them. -/
lemma cons_join (nonempty : pieces ≠ []) :
    '/' :: join ['/'] pieces = pieces.flatMap ('/' :: ·) := by
  obtain ⟨first, more, rfl⟩ := exists_cons_of_ne_nil nonempty
  exact congrArg _ (intercalate_append_cons '/' [] first more)

/-- There are no two slashes next to each other in parts with slashes before them. -/
lemma not_slashes_infix (apart : ∀ piece ∈ pieces, piece ≠ [] ∧ '/' ∉ piece) :
    ¬ ['/', '/'] <:+: pieces.flatMap ('/' :: ·) := by
  induction pieces with
  | nil => exact fun occurs => absurd (infix_nil.1 occurs) (cons_ne_nil _ _)
  | cons first more ih =>
      obtain ⟨⟨nonempty, noSlash⟩, apart⟩ := forall_mem_cons.1 apart
      intro occurs
      have separates : ∀ c ∈ first, c ∉ ['/', '/'] := by
        intro c mem isSlash
        obtain rfl : c = '/' := by simpa using isSlash
        exact noSlash mem
      have occurs : ['/', '/'] <:+: ['/'] ++ (first ++ more.flatMap ('/' :: ·)) := occurs
      rcases infix_or_infix_of_apart nonempty separates occurs with atStart | behind
      · exact absurd atStart.length_le (by decide)
      · exact ih apart behind

lemma not_slashes_infix_ofTarget (target : String) :
    ¬ ['/', '/'] <:+: (ofTarget target).toList := by
  rw [toList_ofTarget]
  by_cases noParts : parts target = []
  · rw [noParts]
    exact fun occurs => absurd occurs.length_le (by decide)
  · rw [cons_join noParts]
    exact not_slashes_infix fun piece mem =>
      have isPart := isRoutePart_of_mem mem
      ⟨isPart.nonempty, isPart.noSlash⟩

/-- A route is its own path. -/
lemma isPath_ofTarget (target : String) : IsPath (ofTarget target).toList where
  plain := by
    intro c mem
    rw [toList_ofTarget] at mem
    by_cases noParts : parts target = []
    · rw [noParts] at mem
      obtain rfl : c = '/' := by simpa [join] using mem
      decide
    · rw [cons_join noParts] at mem
      obtain ⟨piece, isPart, inside⟩ := mem_flatMap.1 mem
      rcases mem_cons.1 inside with rfl | inPiece
      · decide
      · exact (isRoutePart_of_mem isPart).plain c inPiece
  noScheme occurs := not_slashes_infix_ofTarget target (.trans ⟨[':'], [], rfl⟩ occurs)

lemma wordsBy_slash (text : List Char) :
    wordsBy (· == '/') text = (splitAt '/' text).filter (!·.isEmpty) :=
  rfl

/-- Parts that were joined are read again. -/
lemma wordsBy_cons_join (apart : ∀ piece ∈ pieces, piece ≠ [] ∧ '/' ∉ piece) :
    wordsBy (· == '/') ('/' :: join ['/'] pieces) = pieces := by
  rw [wordsBy_slash, splitAt_cons_self, filter_cons_of_neg (by simp)]
  by_cases noParts : pieces = []
  · rw [noParts]
    rfl
  · rw [join, splitAt_intercalate noParts fun piece mem => (apart piece mem).2, filter_eq_self]
    intro piece mem
    simpa using (apart piece mem).1

/-- The same parts are read from a route again. -/
lemma parts_ofTarget (target : String) : parts (ofTarget target) = parts target := by
  have isPart : ∀ piece ∈ parts target, IsRoutePart piece := fun piece => isRoutePart_of_mem
  rw [parts, (isPath_ofTarget target).path_eq, toList_ofTarget,
    wordsBy_cons_join fun piece mem => ⟨(isPart piece mem).nonempty, (isPart piece mem).noSlash⟩]
  exact (map_congr_left fun piece mem => (isPart piece mem).stays).trans (map_id _)

/-! ## Segments -/

lemma parts_of_isPath (h : IsPath text) :
    parts (.ofList text) = ((splitAt '/' text).filter (!·.isEmpty)).map part := by
  rw [parts, String.toList_ofList, h.path_eq, wordsBy_slash]

/-- A segment can be replaced by characters that separate what is around them. -/
lemma IsPath.replaceSegment {left right : List (List Char)} {old new : List Char}
    (h : IsPath (join ['/'] (left ++ old :: right))) (nonempty : new ≠ [])
    (separates : ∀ c ∈ new, c ∉ "/?#:".toList) :
    IsPath (join ['/'] (left ++ new :: right)) := by
  rw [join, intercalate_append_cons] at h ⊢
  obtain ⟨before, -, after⟩ : _ ∧ _ ∧ _ := by simpa only [forall_mem_append] using h.plain
  constructor
  · simp only [forall_mem_append]
    refine ⟨before, fun c mem => isOfPath_iff.2 ⟨?_, ?_⟩, after⟩
    · rintro rfl
      exact separates _ mem (by decide)
    · rintro rfl
      exact separates _ mem (by decide)
  · intro occurs
    have apart : ∀ c ∈ new, c ∉ "://".toList := fun c mem inScheme =>
      separates c mem ((by decide : "://".toList ⊆ "/?#:".toList) inScheme)
    rcases infix_or_infix_of_apart nonempty apart occurs with before | after
    · exact h.noScheme (before.trans (prefix_append _ _).isInfix)
    · rw [← append_assoc] at h
      exact h.noScheme (after.trans (suffix_append _ _).isInfix)

/-- Which variable segment stands in a path makes no difference. -/
lemma ofTarget_replaceSegment {left right : List (List Char)} {old new : List Char}
    (h : IsPath target.toList)
    (split : splitAt '/' target.toList = left ++ old :: right) (oldVariable : isVariable old = true)
    (newVariable : isVariable new = true) (separates : ∀ c ∈ new, c ∉ "/?#:".toList) :
    ofTarget (.ofList (join ['/'] (left ++ new :: right))) = ofTarget target := by
  have oldSome := ne_nil_of_isVariable oldVariable
  have newSome := ne_nil_of_isVariable newVariable
  have joined : join ['/'] (left ++ old :: right) = target.toList := by
    rw [join, ← split, intercalate_splitAt]
  have newPath : IsPath (join ['/'] (left ++ new :: right)) :=
    (joined ▸ h : IsPath _).replaceSegment newSome separates
  have newSplit : splitAt '/' (join ['/'] (left ++ new :: right)) = left ++ new :: right := by
    have noSlash : ∀ segment ∈ left ++ old :: right, '/' ∉ segment :=
      split ▸ not_mem_of_mem_splitAt '/' target.toList
    rw [forall_mem_append, forall_mem_cons] at noSlash
    refine splitAt_intercalate (by simp) ?_
    rw [forall_mem_append, forall_mem_cons]
    exact ⟨noSlash.1, fun mem => separates '/' mem (by decide), noSlash.2.2⟩
  have oldParts := parts_of_isPath h
  rw [String.ofList_toList, split, filter_append, filter_cons_of_pos (by simpa using oldSome),
    map_append, map_cons, part, if_pos oldVariable] at oldParts
  rw [ofTarget, ofTarget, parts_of_isPath newPath, newSplit, filter_append,
    filter_cons_of_pos (by simpa using newSome), map_append, map_cons, part, if_pos newVariable,
    oldParts]

/-! ## Routes -/

/-- **Routes are canonical.**

* The route of a route is the route itself.
* It is a single slash, or it consists of non-empty segments with a slash before each.
* It has no query, fragment or scheme.
* In a target without query, fragment and scheme, one variable segment can be replaced by another
  one, unless that has one of the marks in it that separate the parts of a target. -/
theorem ofTarget_canonical (target : String) :
    ofTarget (ofTarget target) = ofTarget target
      ∧ (ofTarget target = "/" ∨ ∃ segments : List (List Char), segments ≠ []
        ∧ (∀ segment ∈ segments, segment ≠ [] ∧ '/' ∉ segment)
        ∧ (ofTarget target).toList = segments.flatMap ('/' :: ·))
      ∧ IsPath (ofTarget target).toList
      ∧ ∀ left old right new, IsPath target.toList →
        splitAt '/' target.toList = left ++ old :: right →
        isVariable old = true → isVariable new = true → (∀ c ∈ new, c ∉ "/?#:".toList) →
        ofTarget (.ofList (join ['/'] (left ++ new :: right))) = ofTarget target := by
  refine ⟨?_, ?_, isPath_ofTarget target, fun left old right new => ofTarget_replaceSegment⟩
  · rw [ofTarget, parts_ofTarget, ofTarget]
  · by_cases noParts : parts target = []
    · exact .inl (by rw [ofTarget, noParts]; rfl)
    · refine .inr ⟨parts target, noParts, fun segment mem => ?_,
        (toList_ofTarget target).trans (cons_join noParts)⟩
      exact ⟨(isRoutePart_of_mem mem).nonempty, (isRoutePart_of_mem mem).noSlash⟩

/-- The route to the photo of a user does not depend on how the user is named. -/
theorem photo_route_canonical :
    IsPath "/users/{id}/photo".toList
      ∧ splitAt '/' "/users/{id}/photo".toList = [[], "users".toList]
        ++ "{id}".toList :: ["photo".toList]
      ∧ isVariable "{id}".toList = true ∧ isVariable "42".toList = true
        ∧ (∀ c ∈ "42".toList, c ∉ "/?#:".toList)
      ∧ ofTarget "/users/42/photo" = ofTarget "/users/{id}/photo" := by
  have isPath : IsPath "/users/{id}/photo".toList :=
    ⟨all_eq_true.1 (by decide), cutAround_eq_none_iff.1 (by decide)⟩
  have split : splitAt '/' "/users/{id}/photo".toList = [[], "users".toList]
      ++ "{id}".toList :: ["photo".toList] := by
    decide
  have oldVariable : isVariable "{id}".toList = true := by decide
  have newVariable : isVariable "42".toList = true := by decide
  have digits : ("42".toList.all fun c => c ∉ "/?#:".toList) = true := by decide
  have separates : ∀ c ∈ "42".toList, c ∉ "/?#:".toList :=
    fun c mem => of_decide_eq_true (all_eq_true.1 digits c mem)
  have same := (ofTarget_canonical "/users/{id}/photo").2.2.2 _ _ _ _ isPath split oldVariable
    newVariable separates
  have written : String.ofList (join ['/'] ([[], "users".toList]
      ++ "42".toList :: ["photo".toList])) = "/users/42/photo" := by
    decide
  rw [written] at same
  exact ⟨isPath, split, oldVariable, newVariable, separates, same⟩

end DocAudit.Route
