import DocAudit.Proofs.Text.Split
import DocAudit.Proofs.Text.Uuid
import DocAudit.Request
import Mathlib.Data.List.Basic

/-!
# Parts of routes

`Masks` says what a text looks like with the arguments in each pair of parentheses masked.  Each
text has one masked form (`masks_iff`), in which nothing is left to mask (`Masks.again`): the mark
that stands for arguments is an argument itself.

A part of a path that is not variable does not become so in lower case or by masking
(`isVariable_of_masks`).  For placeholders and keys this is because their ends stay, and for UUIDs
because there are no parentheses in them and the case of their letters, those of `urn:uuid:`
included, does not count.  So a part of a route stays as it is (`part_part`).
-/

namespace DocAudit.Route

open List Text

variable {c : Char} {text masked arguments after : List Char}

/-! ## Arguments -/

/-- The second text is the first one with the arguments in each pair of parentheses masked.  A
parenthesis opens a pair unless nothing closes it, or it is closed at once. -/
inductive Masks : List Char → List Char → Prop
  | nil : Masks [] []
  | arguments {arguments after masked : List Char} (nonempty : arguments ≠ [])
      (noEnd : ')' ∉ arguments)
      (rest : Masks after masked) :
      Masks ('(' :: (arguments ++ ')' :: after)) ('(' :: (variablePart ++ ')' :: masked))
  | char {c : Char} {text masked : List Char}
      (noPair : c = '(' → ')' ∉ text ∨ text.head? = some ')')
      (rest : Masks text masked) : Masks (c :: text) (c :: masked)

/-- Skipping characters is masking what is behind them. -/
lemma maskArgumentsFrom_eq_drop (skip : ℕ) (text : List Char) :
    maskArgumentsFrom skip text = maskArgumentsFrom 0 (text.drop skip) := by
  induction text generalizing skip with
  | nil => cases skip <;> rfl
  | cons c rest ih =>
      cases skip with
      | zero => rfl
      | succ skip => exact ih skip

lemma maskArgumentsFrom_arguments (nonempty : arguments ≠ []) (noEnd : ')' ∉ arguments)
    (after : List Char) :
    maskArgumentsFrom 0 ('(' :: (arguments ++ ')' :: after))
      = '(' :: (variablePart ++ ')' :: maskArgumentsFrom 0 after) := by
  obtain ⟨first, more, rfl⟩ := exists_cons_of_ne_nil nonempty
  have cut := cutFirst_append noEnd after
  have behind : (first :: more ++ ')' :: after).drop ((first :: more).length + 1) = after := by
    rw [← drop_drop, drop_left]
    rfl
  rw [maskArgumentsFrom.eq_3 _ _ _ _ cut, maskArgumentsFrom_eq_drop, behind, cons_append]

lemma maskArgumentsFrom_char (noPair : c = '(' → ')' ∉ text ∨ text.head? = some ')') :
    maskArgumentsFrom 0 (c :: text) = c :: maskArgumentsFrom 0 text := by
  refine maskArgumentsFrom.eq_4 _ _ fun first more after opens cut => ?_
  rcases noPair opens with absent | closed
  · rw [cutFirst_eq_none absent] at cut
    cases cut
  · obtain ⟨rest, rfl⟩ := head?_eq_some_iff.1 closed
    have atOnce : cutFirst ')' (')' :: rest) = some ([], rest) := cutFirst_append not_mem_nil rest
    rw [atOnce] at cut
    cases cut

lemma masks_maskArguments (text : List Char) : Masks text (maskArgumentsFrom 0 text) := by
  induction length : text.length using Nat.strong_induction_on generalizing text with
  | _ _ ih =>
      subst length
      cases text with
      | nil => exact .nil
      | cons c rest =>
          by_cases noPair : c = '(' → ')' ∉ rest ∨ rest.head? = some ')'
          · rw [maskArgumentsFrom_char noPair]
            exact .char noPair (ih rest.length (by simp) rest rfl)
          · simp only [Classical.not_imp, not_or, not_not] at noPair
            obtain ⟨rfl, closes, notAtOnce⟩ := noPair
            obtain ⟨arguments, after, rfl, noEnd⟩ := eq_append_cons_of_mem closes
            have nonempty : arguments ≠ [] := by
              rintro rfl
              exact notAtOnce rfl
            rw [maskArgumentsFrom_arguments nonempty noEnd]
            exact .arguments nonempty noEnd (ih after.length (by simp; omega) after rfl)

/-- A text has one masked form. -/
lemma masks_iff : Masks text masked ↔ maskArgumentsFrom 0 text = masked := by
  constructor
  · intro masks
    induction masks with
    | nil => rfl
    | arguments nonempty noEnd _ ih => rw [maskArgumentsFrom_arguments nonempty noEnd, ih]
    | char noPair _ ih => rw [maskArgumentsFrom_char noPair, ih]
  · rintro rfl
    exact masks_maskArguments text

namespace Masks

/-- Masking starts behind the parenthesis. -/
lemma head?_eq (h : Masks text masked) : masked.head? = text.head? := by
  cases h <;> rfl

/-- Masking ends before the parenthesis. -/
lemma getLast?_eq (h : Masks text masked) : masked.getLast? = text.getLast? := by
  induction h with
  | nil => rfl
  | arguments _ _ _ ih => simp [getLast?_cons, getLast?_append, ih]
  | char _ _ ih => rw [getLast?_cons, getLast?_cons, ih]

lemma eq_nil_iff (h : Masks text masked) : masked = [] ↔ text = [] := by
  cases h <;> simp

/-- The only characters that are added are those of the mark. -/
lemma mem_or_mem (h : Masks text masked) (mem : c ∈ masked) : c ∈ text ∨ c ∈ variablePart := by
  induction h with
  | nil => cases mem
  | arguments _ _ _ ih =>
      simp only [mem_cons, mem_append] at mem ⊢
      rcases mem with opens | isMark | closes | isAfter
      · exact .inl (.inl opens)
      · exact .inr isMark
      · exact .inl (.inr (.inr (.inl closes)))
      · exact (ih isAfter).imp_left fun isAfter => .inr (.inr (.inr isAfter))
  | char _ _ ih =>
      rcases mem_cons.1 mem with rfl | isRest
      · exact .inl mem_cons_self
      · exact (ih isRest).imp_left (mem_cons_of_mem _)

/-- Where nothing closes a pair, nothing is masked. -/
lemma eq_of_not_closed (h : Masks text masked) (absent : ')' ∉ text) : masked = text := by
  induction h with
  | nil => rfl
  | arguments => exact absurd (by simp) absent
  | char _ _ ih => rw [ih fun mem => absent (mem_cons_of_mem _ mem)]

/-- Where nothing opens a pair, nothing was masked. -/
lemma eq_of_not_open (h : Masks text masked) (absent : '(' ∉ masked) : masked = text := by
  induction h with
  | nil => rfl
  | arguments => exact absurd mem_cons_self absent
  | char _ _ ih => rw [ih fun mem => absent (mem_cons_of_mem _ mem)]

/-- Masking again changes nothing. -/
lemma again (h : Masks text masked) : Masks masked masked := by
  induction h with
  | nil => exact .nil
  | arguments _ _ _ ih => exact .arguments (by decide) (by decide) ih
  | char noPair rest ih =>
      refine .char (fun opens => ?_) ih
      rcases noPair opens with absent | closed
      · exact .inl (rest.eq_of_not_closed absent ▸ absent)
      · exact .inr (rest.head?_eq.trans closed)

end Masks

/-! ## Variable parts -/

/-- A part is variable because of its ends, or because it is a bare UUID. -/
lemma isVariable_iff : isVariable text = true ↔ text.head? = some '{' ∧ text.getLast? = some '}'
    ∨ text.head? = some '\'' ∧ text.getLast? = some '\''
    ∨ (∃ digit, digit.isDigit = true ∧ text.head? = some digit)
    ∨ text.head? ≠ some '{' ∧ isBareUuid text = true := by
  simp only [isVariable, Bool.or_eq_true, Bool.and_eq_true, beq_iff_eq, Option.any_eq_true]
  constructor
  · rintro (((placeholder | quoted) | ⟨digit, starts, isDigit⟩) | uuid)
    · exact .inl placeholder
    · exact .inr (.inl quoted)
    · exact .inr (.inr (.inl ⟨digit, isDigit, starts⟩))
    · exact (isUuid_cases uuid).imp id fun bare => .inr (.inr bare)
  · rintro (placeholder | quoted | ⟨digit, isDigit, starts⟩ | ⟨noBrace, bare⟩)
    · exact .inl (.inl (.inl placeholder))
    · exact .inl (.inl (.inr quoted))
    · exact .inl (.inr ⟨digit, starts, isDigit⟩)
    · exact .inr (isUuid_of_isBareUuid noBrace bare)

lemma digit_early {digit : Char} (isDigit : digit.isDigit = true) :
    digit.toNat < 0x80 ∧ digit.isAlpha = false := by
  have early := (IsUuidChar.of_isHexDigit (c := digit) (by simp [isHexDigit, isDigit])).early
  have all : ∀ n < 0x80, (Char.ofNat n).isDigit = true →
      (Char.ofNat n).isAlpha = false := by decide +kernel
  exact ⟨early, forall_ascii (fun c => c.isDigit = true → c.isAlpha = false) all early isDigit⟩

lemma ne_nil_of_isVariable (varies : isVariable text = true) : text ≠ [] := by
  rintro rfl
  revert varies
  decide

/-- A part that is variable in lower case and with its arguments masked was so before. -/
lemma isVariable_of_masks (masks : Masks (lower text) masked)
    (varies : isVariable masked = true) :
    isVariable text = true := by
  have lowers := lowersTo_lower text
  rw [isVariable_iff] at varies ⊢
  rw [masks.head?_eq, masks.getLast?_eq] at varies
  rcases varies with ⟨starts, ends⟩ | ⟨starts, ends⟩ | ⟨digit, isDigit, starts⟩ | ⟨noBrace, bare⟩
  · exact .inl ⟨lowers.head?_eq (by decide) (by decide) starts,
      lowers.getLast?_eq (by decide) (by decide) ends⟩
  · exact .inr (.inl ⟨lowers.head?_eq (by decide) (by decide) starts,
      lowers.getLast?_eq (by decide) (by decide) ends⟩)
  · obtain ⟨early, noLetter⟩ := digit_early isDigit
    exact .inr (.inr (.inl ⟨digit, isDigit, lowers.head?_eq early noLetter starts⟩))
  · have noParenthesis : '(' ∉ masked := fun mem => (isUuidChar_of_mem bare _ mem).noParenthesis rfl
    rw [masks.eq_of_not_open noParenthesis] at bare
    refine .inr (.inr (.inr ⟨fun brace => noBrace ?_, isBareUuid_of_lower bare⟩))
    rw [lower_eq_map_of_isBareUuid bare, head?_map, brace]
    rfl

-- in lower case the segment is a UUID, so it has to be one in capitals, or its route would change
example : part "URN:UUID:67e55044-10b1-426f-9247-bb680e5fe0c8".toList = variablePart := by decide

/-! ## Parts -/

/-- What remains of a part that is not variable. -/
lemma masks_part (literal : isVariable text = false) : Masks (lower text) (part text) := by
  rw [part, if_neg (by simp [literal])]
  exact masks_maskArguments _

/-- A variable part is marked as such, and another is in lower case with its arguments masked. -/
lemma part_cases (text : List Char) : isVariable text = true ∧ part text = variablePart
    ∨ isVariable text = false ∧ Masks (lower text) (part text) := by
  cases varies : isVariable text with
  | true => exact .inl ⟨rfl, if_pos varies⟩
  | false => exact .inr ⟨rfl, masks_part varies⟩

/-- **A part of a route stays as it is.** -/
theorem part_part (text : List Char) : part (part text) = part text := by
  rcases part_cases text with ⟨-, isMark⟩ | ⟨literal, masks⟩
  · rw [isMark]
    decide
  · have stillLiteral : isVariable (part text) = false := by
      rw [← Bool.not_eq_true] at literal ⊢
      exact mt (isVariable_of_masks masks) literal
    have settled : ∀ c ∈ part text, IsSettled c.toNat := by
      intro c mem
      rcases masks.mem_or_mem mem with isLower | isMark
      · exact isSettled_of_mem_lower isLower
      · have markSettled : (variablePart.all fun c => IsSettled c.toNat) = true := by decide +kernel
        exact of_decide_eq_true (all_eq_true.1 markSettled c isMark)
    have again := masks_part stillLiteral
    rw [lower_eq_self settled, masks_iff] at again
    rw [← again, ← masks_iff]
    exact masks.again

lemma part_ne_nil (nonempty : text ≠ []) : part text ≠ [] := by
  rcases part_cases text with ⟨-, isMark⟩ | ⟨-, masks⟩
  · rw [isMark]
    decide
  · rwa [ne_eq, masks.eq_nil_iff, (lowersTo_lower text).eq_nil_iff]

/-- The only marks in a part of a route are those of the text and those of the masks. -/
lemma mark_not_mem_part {mark : Char} (early : mark.toNat < 0x80) (noLetter : mark.isAlpha = false)
    (other : mark ∉ variablePart) (absent : mark ∉ text) : mark ∉ part text := by
  rcases part_cases text with ⟨-, isMark⟩ | ⟨-, masks⟩
  · rwa [isMark]
  · intro mem
    rcases masks.mem_or_mem mem with isLower | isMark
    · exact mark_not_mem_lower early noLetter absent isLower
    · exact other isMark

end DocAudit.Route
