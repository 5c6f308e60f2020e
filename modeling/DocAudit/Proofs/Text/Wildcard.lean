import Mathlib.Data.List.Basic
import DocAudit.Proofs.Text.Split
import DocAudit.Text.Wildcard

/-!
# What a pattern stands for

`Spells` says what a pattern with stars stands for: each star for some run of characters, and every
other character for itself.  Matching cuts the pattern at its stars and looks for the pieces from
left to right, each at its first place.  `wildcardMatch_iff` says that nothing is missed this way:
where a piece is found later, it is found at its first place as well (`exists_cutAround`), because
the star before what follows takes the rest (`Apart.append_left`).

What a pattern stands for may also be said by what is put in for its stars, one after the other
(`fill`): `wildcards_exact` says it for both ways of matching.
-/

namespace DocAudit.Text

open List

/-- A text is the pattern with each star replaced by some characters. -/
inductive Spells : List Char → List Char → Prop
  | nil : Spells [] []
  | star {pattern text} (run : List Char) : Spells pattern text →
      Spells ('*' :: pattern) (run ++ text)
  | char {pattern text c} : c ≠ '*' → Spells pattern text → Spells (c :: pattern) (c :: text)

variable {c : Char} {piece text pattern : List Char} {pieces more : List (List Char)}

/-! ## Pieces -/

/-- The pieces stand in a text in order and without overlap, with any run of characters before each,
and the last one ends the text. -/
def Apart : List (List Char) → List Char → Prop
  | [], text => text = []
  | piece :: more, text => ∃ run rest, text = run ++ (piece ++ rest) ∧ Apart more rest

/-- A piece may be preceded by more characters. -/
lemma Apart.append_left (run : List Char) (apart : Apart (piece :: more) text) :
    Apart (piece :: more) (run ++ text) := by
  obtain ⟨before, rest, rfl, follows⟩ := apart
  exact ⟨run ++ before, rest, (append_assoc ..).symm, follows⟩

lemma piecesMatch_cons {next : List Char} : piecesMatch (piece :: next :: more) text =
    match cutAround piece text with
    | some (_, after) => piecesMatch (next :: more) after
    | none => false :=
  rfl

lemma piecesMatch_iff : piecesMatch pieces text = true ↔ Apart pieces text := by
  induction pieces generalizing text with
  | nil => rw [piecesMatch, List.isEmpty_iff, Apart]
  | cons piece more ih =>
      cases more with
      | nil =>
          rw [piecesMatch, isSuffixOf_iff_suffix]
          constructor
          · rintro ⟨run, rfl⟩
            exact ⟨run, [], by rw [append_nil], rfl⟩
          · rintro ⟨run, _, rfl, rfl⟩
            exact ⟨run, by rw [append_nil]⟩
      | cons next more =>
          constructor
          · intro matched
            rw [piecesMatch_cons] at matched
            split at matched
            · next before after cut =>
                exact ⟨before, after, by rw [eq_append_of_cutAround cut, append_assoc],
                  ih.1 matched⟩
            · cases matched
          · rintro ⟨run, rest, rfl, follows⟩
            obtain ⟨before, shift, cut⟩ := exists_cutAround run piece rest
            rw [← append_assoc, piecesMatch_cons, cut]
            exact ih.2 (follows.append_left shift)

/-! ## Patterns -/

/-- A pattern stands for its first piece, followed by the others with any characters before each. -/
lemma spells_iff (cut : splitAt '*' pattern = piece :: more) :
    Spells pattern text ↔ ∃ rest, text = piece ++ rest ∧ Apart more rest := by
  induction pattern generalizing piece more text with
  | nil =>
      cases cut
      constructor
      · rintro ⟨⟩
        exact ⟨[], rfl, rfl⟩
      · rintro ⟨_, rfl, rfl⟩
        exact .nil
  | cons c pattern ih =>
      obtain ⟨first, others, tail⟩ := exists_splitAt '*' pattern
      rcases eq_or_ne c '*' with rfl | other
      · rw [splitAt_cons_self, tail] at cut
        cases cut
        constructor
        · rintro (_ | ⟨run, spelt⟩ | ⟨wrong, -⟩)
          · obtain ⟨rest, rfl, apart⟩ := (ih tail).1 spelt
            exact ⟨_, rfl, run, rest, rfl, apart⟩
          · exact absurd rfl wrong
        · rintro ⟨_, rfl, run, rest, rfl, apart⟩
          exact .star run ((ih tail).2 ⟨rest, rfl, apart⟩)
      · rw [splitAt_cons other tail] at cut
        cases cut
        constructor
        · rintro (_ | ⟨run, -⟩ | ⟨-, spelt⟩)
          · exact absurd rfl other
          · obtain ⟨rest, rfl, apart⟩ := (ih tail).1 spelt
            exact ⟨rest, rfl, apart⟩
        · rintro ⟨rest, rfl, apart⟩
          exact .char other ((ih tail).2 ⟨rest, rfl, apart⟩)

/-- **Matching finds out exactly what a pattern stands for.** -/
theorem wildcardMatch_iff : wildcardMatch pattern text = true ↔ Spells pattern text := by
  obtain ⟨piece, more, cut⟩ := exists_splitAt '*' pattern
  rw [spells_iff cut, wildcardMatch, cut]
  cases more with
  | nil =>
      rw [beq_iff_eq]
      constructor
      · rintro rfl
        exact ⟨[], (append_nil _).symm, rfl⟩
      · rintro ⟨_, rfl, rfl⟩
        exact (append_nil _).symm
  | cons next more =>
      constructor
      · intro matched
        dsimp only at matched
        split at matched
        · next rest found => exact ⟨rest, eq_append_of_isPrefixOf? found, piecesMatch_iff.1 matched⟩
        · cases matched
      · rintro ⟨rest, rfl, apart⟩
        dsimp only
        rw [isPrefixOf?_append]
        exact piecesMatch_iff.2 apart

/-! ## What is put in for the stars -/

/-- A pattern with its stars replaced by some runs of characters, one after the other. -/
def fill : List Char → List (List Char) → List Char
  | [], _ => []
  | c :: pattern, runs =>
    if c = '*' then runs.headD [] ++ fill pattern runs.tail else c :: fill pattern runs

/-- A pattern stands for what it becomes when each of its stars is replaced by some run. -/
lemma spells_iff_exists_fill :
    Spells pattern text ↔ ∃ runs, runs.length = pattern.count '*' ∧ fill pattern runs = text := by
  constructor
  · intro spelt
    induction spelt with
    | nil => exact ⟨[], rfl, rfl⟩
    | star run _ ih =>
        obtain ⟨runs, enough, rfl⟩ := ih
        exact ⟨run :: runs, by rw [length_cons, enough, count_cons_self], rfl⟩
    | char other _ ih =>
        obtain ⟨runs, enough, rfl⟩ := ih
        exact ⟨runs, by rw [enough, count_cons_of_ne other], if_neg other⟩
  · rintro ⟨runs, enough, rfl⟩
    induction pattern generalizing runs with
    | nil => exact .nil
    | cons c pattern ih =>
        rcases eq_or_ne c '*' with rfl | other
        · rw [count_cons_self] at enough
          obtain ⟨run, runs, rfl⟩ := exists_cons_of_length_eq_add_one enough
          exact .star run (ih runs (Nat.succ.inj enough))
        · rw [count_cons_of_ne other] at enough
          rw [fill, if_neg other]
          exact .char other (ih runs enough)

/-- **Wildcards are exact.**  A pattern matches the texts that it becomes when each star is replaced
by some run of characters, which may be empty; and regardless of case, it matches a text if this
holds of the two in lower case. -/
theorem wildcards_exact (pattern text : List Char) :
    (wildcardMatch pattern text = true ↔
        ∃ runs, runs.length = pattern.count '*' ∧ fill pattern runs = text)
    ∧ (wildcardMatchIgnoringCase pattern text = true ↔
        ∃ runs, runs.length = (lower pattern).count '*'
          ∧ fill (lower pattern) runs = lower text) := by
  refine ⟨wildcardMatch_iff.trans spells_iff_exists_fill, ?_⟩
  rw [wildcardMatchIgnoringCase, wildcardMatch_iff, spells_iff_exists_fill]

/-- The pieces at the two ends may not overlap. -/
example : wildcardMatch "ab*ab".toList "ab".toList = false
    ∧ wildcardMatch "a*c*e".toList "abcde".toList = true := by
  decide +kernel

end DocAudit.Text
