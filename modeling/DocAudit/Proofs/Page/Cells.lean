import DocAudit.Proofs.Text.Cleaning

/-!
# Bare cells

What a cell says is the cell without its decoration.  A cell is bare if it has none: no blanks, bars
and emphasis around it, and no backticks and line breaks in it (`IsBareCell`).  These are exactly
the cells that say what is written in them (`bareCell_eq_self_iff`).  A bare cell stays bare with
text around it that brings no decoration (`IsBareCell.around`).
-/

namespace DocAudit

open List

variable {cell text inner before after : List Char}

/-! ## Emphasis -/

/-- The markers of emphasis. -/
def emphasisMarks : List (List Char) := [['*', '*'], ['_', '_'], ['*'], ['_']]

/-- Emphasis has the same marker at both ends. -/
lemma exists_mark_of_unemphasized? (taken : unemphasized? text = some inner) :
    ∃ mark ∈ emphasisMarks, text = mark ++ inner ++ mark := by
  have inside {mark : List Char}
      (h : (mark.isPrefixOf? text).bind (mark.isSuffixOf? ·) = some inner) :
      text = mark ++ inner ++ mark := by
    obtain ⟨rest, start, finish⟩ := Option.bind_eq_some_iff.1 h
    rw [Text.eq_append_of_isPrefixOf? start, Text.eq_append_of_isSuffixOf? finish, append_assoc]
  simp only [unemphasized?, Option.filter_eq_some_iff, Option.orElse_eq_orElse, Option.orElse_eq_or,
    Option.or_eq_some_iff] at taken
  rcases taken.1 with found | ⟨-, found | ⟨-, found | ⟨-, found⟩⟩⟩
  · exact ⟨_, by decide, inside found⟩
  · exact ⟨_, by decide, inside found⟩
  · exact ⟨_, by decide, inside found⟩
  · exact ⟨_, by decide, inside found⟩

lemma unemphasized?_eq_none_of_first (first : ∀ c ∈ text.head?, c ≠ '*' ∧ c ≠ '_') :
    unemphasized? text = none := by
  refine Option.eq_none_iff_forall_ne_some.2 fun inner taken => ?_
  obtain ⟨mark, isMark, rfl⟩ := exists_mark_of_unemphasized? taken
  have marked : ∀ mark ∈ emphasisMarks, mark.head? = some '*' ∨ mark.head? = some '_' := by decide
  rw [append_assoc, head?_append] at first
  rcases marked mark isMark with star | underscore
  · exact (first '*' (by rw [star]; rfl)).1 rfl
  · exact (first '_' (by rw [underscore]; rfl)).2 rfl

lemma unemphasized?_eq_none_of_last (last : ∀ c ∈ text.getLast?, c ≠ '*' ∧ c ≠ '_') :
    unemphasized? text = none := by
  refine Option.eq_none_iff_forall_ne_some.2 fun inner taken => ?_
  obtain ⟨mark, isMark, rfl⟩ := exists_mark_of_unemphasized? taken
  have marked : ∀ mark ∈ emphasisMarks, mark.getLast? = some '*'
      ∨ mark.getLast? = some '_' := by decide
  rw [getLast?_append] at last
  rcases marked mark isMark with star | underscore
  · exact (last '*' (by rw [star]; rfl)).1 rfl
  · exact (last '_' (by rw [underscore]; rfl)).2 rfl

/-- Taking off all emphasis shortens a text that has some, and leaves other texts. -/
lemma withoutEmphasis_cases (text : List Char) :
    (unemphasized? text = none ∧ withoutEmphasis text.length text = text)
      ∨ (unemphasized? text ≠ none ∧ (withoutEmphasis text.length text).length < text.length) := by
  cases text with
  | nil => exact .inl ⟨rfl, rfl⟩
  | cons c rest =>
      rw [length_cons, withoutEmphasis]
      cases taken : unemphasized? (c :: rest) with
      | none => exact .inl ⟨rfl, rfl⟩
      | some inner =>
          refine .inr ⟨Option.some_ne_none _, ?_⟩
          obtain ⟨mark, isMark, whole⟩ := exists_mark_of_unemphasized? taken
          have long : 0 < mark.length := by
            have marked : ∀ mark ∈ emphasisMarks, 0 < mark.length := by decide
            exact marked mark isMark
          have length := congrArg List.length whole
          have trimmed := Text.length_trim_le inner
          have shortened := length_withoutEmphasis_le rest.length (Text.trim inner)
          rw [length_append, length_append, length_cons] at length
          dsimp only
          omega

lemma shrinks_withoutEmphasis : Text.Shrinks fun text => withoutEmphasis text.length text := by
  intro text
  exact (withoutEmphasis_cases text).imp And.right And.right

lemma withoutEmphasis_eq_self_iff :
    withoutEmphasis text.length text = text ↔ unemphasized? text = none := by
  rcases withoutEmphasis_cases text with ⟨plain, same⟩ | ⟨emphasized, shorter⟩
  · exact iff_of_true same plain
  · exact iff_of_false (fun same => Nat.ne_of_lt shorter (congrArg List.length same)) emphasized

/-! ## Cells without decoration -/

/-- The marks of line breaks. -/
def breakMarks : List String := ["<br/>", "<br />", "<br>"]

/-- A character that may stand at the end of a cell. -/
def IsFirm (c : Char) : Prop :=
  Text.isBlank c = false ∧ (c == '|') = false

instance : DecidablePred IsFirm := fun c =>
  inferInstanceAs (Decidable (Text.isBlank c = false ∧ (c == '|') = false))

/-- The end of a text that is written out can be looked at. -/
lemma isFirm_of_all {ending : Option Char} (all : (ending.all fun c => decide (IsFirm c)) = true) :
    ∀ c ∈ ending, IsFirm c := by
  rintro c rfl
  exact of_decide_eq_true all

/-- A cell without decoration. -/
structure IsBareCell (cell : List Char) : Prop where
  first : ∀ c ∈ cell.head?, IsFirm c
  last : ∀ c ∈ cell.getLast?, IsFirm c
  unbroken : ∀ mark ∈ breakMarks, ¬ mark.toList <:+: cell
  unticked : '\x60' ∉ cell
  plain : unemphasized? cell = none

/-- The steps in which the decoration is taken off a cell. -/
def cellSteps : List (List Char → List Char) :=
  [Text.trim, Text.trimBy (· == '|'), Text.trim, Text.replaceAll "<br/>".toList [' '],
   Text.replaceAll "<br />".toList [' '], Text.replaceAll "<br>".toList [' '],
     filter (· != '\x60'), Text.trim,
   fun text => withoutEmphasis text.length text]

lemma bareCell_eq_foldl (cell : List Char) :
    bareCell cell = cellSteps.foldl (fun text step => step text) cell := by
  simp only [bareCell, unframed, cellSteps, foldl_cons, foldl_nil]

lemma shrinks_cellSteps : ∀ step ∈ cellSteps, Text.Shrinks step := by
  have trims (p : Char → Bool) : Text.Shrinks (Text.trimBy p) := Text.shrinks_trimBy p
  have replaces (mark : String) (long : [' '].length < mark.toList.length) :
      Text.Shrinks (Text.replaceAll mark.toList [' ']) :=
    Text.shrinks_replaceAll long
  have unticks : Text.Shrinks (filter (· != '\x60')) :=
    Text.shrinks_of_sublist fun _ => filter_sublist
  simp only [cellSteps, forall_mem_cons]
  exact ⟨trims _, trims _, trims _, replaces _ (by decide), replaces _ (by decide),
    replaces _ (by decide), unticks,
    trims _, shrinks_withoutEmphasis, forall_mem_nil _⟩

/-- A cell says what is written in it if it has no decoration. -/
theorem bareCell_eq_self_iff : bareCell cell = cell ↔ IsBareCell cell := by
  have unreplaced {mark : String} (long : [' '].length < mark.toList.length) :
      Text.replaceAll mark.toList [' '] cell = cell ↔ ¬ mark.toList <:+: cell :=
        Text.replaceAll_eq_self_iff long
  have unticked : cell.filter (· != '\x60') = cell ↔ '\x60' ∉ cell := by
    rw [filter_eq_self]
    simp only [bne_iff_ne]
    exact ⟨fun all mem => all _ mem rfl, fun absent c mem same => absent (same ▸ mem)⟩
  rw [bareCell_eq_foldl, Text.foldl_eq_self_iff shrinks_cellSteps]
  simp only [cellSteps, forall_mem_cons, Text.trim, Text.trimBy_eq_self_iff,
    withoutEmphasis_eq_self_iff, unticked]
  rw [unreplaced (by decide), unreplaced (by decide), unreplaced (by decide)]
  constructor
  · rintro ⟨blank, bar, -, slashed, spaced, short, ticks, -, plain, -⟩
    refine ⟨fun c mem => ⟨blank.1 c mem, bar.1 c mem⟩, fun c mem => ⟨blank.2 c mem, bar.2 c mem⟩,
      ?_, ticks, plain⟩
    simp only [breakMarks, forall_mem_cons]
    exact ⟨slashed, spaced, short, forall_mem_nil _⟩
  · intro bare
    have blank := And.intro (fun c mem => (bare.first c mem).1) fun c mem => (bare.last c mem).1
    have bar := And.intro (fun c mem => (bare.first c mem).2) fun c mem => (bare.last c mem).2
    exact ⟨blank, bar, blank, bare.unbroken _ (by decide), bare.unbroken _ (by decide),
      bare.unbroken _ (by decide),
      bare.unticked, blank, bare.plain, forall_mem_nil _⟩

namespace IsBareCell

lemma trim_eq (bare : IsBareCell cell) : Text.trim cell = cell :=
  Text.trimBy_eq_self_iff.2 ⟨fun c mem => (bare.first c mem).1, fun c mem => (bare.last c mem).1⟩

/-- A text without the marks of line breaks and backticks is a bare cell if its ends are those of
one. -/
lemma of_not_mem (first : ∀ c ∈ cell.head?, IsFirm c) (last : ∀ c ∈ cell.getLast?, IsFirm c)
    (unbroken : '<' ∉ cell)
    (unticked : '\x60' ∉ cell) (plain : unemphasized? cell = none) : IsBareCell cell where
  first := first
  last := last
  unbroken := by
    intro mark isMark occurs
    have opened : ∀ mark ∈ breakMarks, '<' ∈ mark.toList := by decide
    exact unbroken (occurs.subset (opened mark isMark))
  unticked := unticked
  plain := plain

/-- Text around a bare cell joins with no part of it into a line break, if it neither ends like the
start of one nor starts like its end. -/
lemma around (bare : IsBareCell cell) (nonempty : cell ≠ []) (first : ∀ c ∈ before.head?, IsFirm c)
    (last : ∀ c ∈ after.getLast?, IsFirm c) (closed : '<' ∉ before) (opened : '>' ∉ after)
    (unticked : '\x60' ∉ before ++ after) (plain : unemphasized? (before ++ cell ++ after) = none) :
    IsBareCell (before ++ cell ++ after) where
  first := by
    rw [append_assoc, head?_append, head?_append_of_ne_nil _ nonempty]
    intro c mem
    rcases Option.or_eq_some_iff.1 (Option.mem_def.1 mem) with here | ⟨-, here⟩
    · exact first c here
    · exact bare.first c here
  last := by
    rw [getLast?_append, getLast?_append_of_ne_nil _ nonempty]
    intro c mem
    rcases Option.or_eq_some_iff.1 (Option.mem_def.1 mem) with here | ⟨-, here⟩
    · exact last c here
    · exact bare.last c here
  unbroken := by
    intro mark isMark occurs
    have framed : ∀ mark ∈ breakMarks, mark.toList = '<' :: mark.toList.tail
        ∧ mark.toList = mark.toList.dropLast ++ ['>'] := by decide
    obtain ⟨starts, ends⟩ := framed mark isMark
    rw [ends] at occurs
    have inFront := Text.infix_of_append_right opened occurs
    rw [← ends, starts] at inFront
    have inside := Text.infix_of_append_left closed inFront
    rw [← starts] at inside
    exact bare.unbroken mark isMark inside
  unticked := by
    rw [mem_append, not_or] at unticked
    rw [mem_append, mem_append, not_or, not_or]
    exact ⟨⟨unticked.1, bare.unticked⟩, unticked.2⟩
  plain := plain

end IsBareCell

end DocAudit
