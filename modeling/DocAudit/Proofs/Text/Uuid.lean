import DocAudit.Proofs.Text.Lowercase
import DocAudit.Text.Uuid
import Mathlib.Data.List.Basic

/-!
# UUIDs in lower case

A UUID is in braces or bare (`isUuid_cases`).  The characters of a bare one are ASCII characters,
and neither a parenthesis nor the one letter that is the lower case of another character as well
(`isUuidChar_of_mem`).  The case of its letters does not count (`isBareUuid_map_toLower`).  So a
text whose lower case is a bare UUID is one as well (`isBareUuid_of_lower`).
-/

namespace DocAudit.Text

open List

variable {c : Char} {text : List Char}

/-- Whether a text is a UUID in a form without braces. -/
def isBareUuid (text : List Char) : Bool :=
  let hyphenated := isHyphenated [8, 4, 4, 4, 12]
  (text.length == 32 && text.all isHexDigit) || hyphenated text ||
    ("urn:uuid:".toList == (text.take 9).map Char.toLower && hyphenated (text.drop 9))

lemma isUuid_of_isBareUuid (noBrace : text.head? ≠ some '{') (bare : isBareUuid text = true) :
    isUuid text = true := by
  unfold isUuid
  split
  · exact absurd rfl noBrace
  · exact bare

lemma isUuid_cases (h : isUuid text = true) :
    text.head? = some '{' ∧ text.getLast? = some '}'
      ∨ text.head? ≠ some '{' ∧ isBareUuid text = true := by
  unfold isUuid at h
  split at h
  · next rest =>
      rw [Bool.and_eq_true, beq_iff_eq] at h
      exact .inl ⟨rfl, by rw [getLast?_cons, h.1]; rfl⟩
  · next noBrace =>
      refine .inr ⟨fun starts => ?_, h⟩
      obtain ⟨rest, rfl⟩ := head?_eq_some_iff.1 starts
      exact noBrace rest rfl

/-! ## Case -/

/-- Only ASCII characters have another case of their own kind. -/
lemma toLower_of_late (late : 0x80 ≤ c.toNat) : c.toLower = c := by
  refine dif_neg fun upper => ?_
  have last : c.toNat ≤ 'Z'.toNat := upper.2
  have early : 'Z'.toNat < 0x80 := by decide
  omega

lemma toLower_toLower (c : Char) : c.toLower.toLower = c.toLower := by
  rcases Nat.lt_or_ge c.toNat 0x80 with early | late
  · have all : ∀ n < 0x80, (Char.ofNat n).toLower.toLower = (Char.ofNat n).toLower := by
      decide +kernel
    exact forall_ascii (fun c => c.toLower.toLower = c.toLower) all early
  · rw [toLower_of_late late, toLower_of_late late]

lemma isHexDigit_toLower (c : Char) : isHexDigit c.toLower = isHexDigit c := by
  rcases Nat.lt_or_ge c.toNat 0x80 with early | late
  · have all : ∀ n < 0x80, isHexDigit (Char.ofNat n).toLower = isHexDigit (Char.ofNat n) := by
      decide +kernel
    exact forall_ascii (fun c => isHexDigit c.toLower = isHexDigit c) all early
  · rw [toLower_of_late late]

lemma isHyphenated_map_toLower (sizes : List ℕ) (text : List Char) :
    isHyphenated sizes (text.map Char.toLower) = isHyphenated sizes text := by
  induction sizes generalizing text with
  | nil => simp [isHyphenated]
  | cons size sizes ih =>
      have digits : ((text.map Char.toLower).take size).all isHexDigit
          = (text.take size).all isHexDigit := by
        simp [← map_take, Function.comp_def, isHexDigit_toLower]
      unfold isHyphenated
      dsimp only
      rw [digits, ← map_drop, ← map_take, length_map]
      cases text.drop size with
      | nil => rfl
      | cons mark rest =>
          cases sizes with
          | nil => rfl
          | cons next others =>
              by_cases hyphen : mark = '-'
              · subst hyphen
                exact congrArg _ (ih rest)
              · have lowered : mark.toLower ≠ '-' := mt (eq_of_toLower_eq (by decide)) hyphen
                simp [hyphen, lowered]

/-- The case of its letters makes no difference to a bare UUID, in the prefix as little as in the
digits. -/
lemma isBareUuid_map_toLower (text : List Char) :
    isBareUuid (text.map Char.toLower) = isBareUuid text := by
  simp only [isBareUuid, length_map, all_map, isHyphenated_map_toLower, ← map_take, ← map_drop,
    map_map, Function.comp_def, isHexDigit_toLower, toLower_toLower]

example : isBareUuid "URN:UUID:936da01f-9abd-4d9d-80c7-02af85c822a8".toList = true := by decide

/-! ## Characters -/

/-- What the characters of bare UUIDs have in common.  The letter left out is also the lower case of
a character that is no ASCII character. -/
structure IsUuidChar (c : Char) : Prop where
  early : c.toNat < 0x80
  noKelvin : c ≠ 'k'
  noParenthesis : c ≠ '('

lemma IsUuidChar.of_isHexDigit (isDigit : isHexDigit c = true) : IsUuidChar c where
  early := by
    -- the last digits of the three ranges, as numbers
    have decimal : '9'.val.toNat = 0x39 := rfl
    have lower : 'f'.val.toNat = 0x66 := rfl
    have upper : 'F'.val.toNat = 0x46 := rfl
    simp only [isHexDigit, Char.isDigit, Bool.or_eq_true, Bool.and_eq_true, decide_eq_true_iff,
      Char.le_def, ge_iff_le, UInt32.le_iff_toNat_le] at isDigit
    change c.val.toNat < 0x80
    omega
  noKelvin := by
    rintro rfl
    revert isDigit
    decide
  noParenthesis := by
    rintro rfl
    revert isDigit
    decide

lemma IsUuidChar.of_isHyphenated {sizes : List ℕ} (h : isHyphenated sizes text = true) :
    ∀ c ∈ text, IsUuidChar c := by
  have hyphenChar : IsUuidChar '-' := ⟨by decide, by decide, by decide⟩
  induction sizes generalizing text with
  | nil =>
      rw [isHyphenated, List.isEmpty_iff] at h
      rw [h]
      exact forall_mem_nil _
  | cons size sizes ih =>
      unfold isHyphenated at h
      simp only [Bool.and_eq_true] at h
      obtain ⟨⟨-, digits⟩, others⟩ := h
      have behind : ∀ c ∈ text.drop size, IsUuidChar c := by
        split at others
        · rw [List.isEmpty_iff.1 others]
          exact forall_mem_nil _
        · next isDrop =>
            rw [isDrop, forall_mem_cons]
            exact ⟨hyphenChar, ih others⟩
        · cases others
      rw [← take_append_drop size text, forall_mem_append]
      exact ⟨fun c mem => .of_isHexDigit (all_eq_true.1 digits c mem), behind⟩

lemma isUuidChar_of_mem (bare : isBareUuid text = true) : ∀ c ∈ text, IsUuidChar c := by
  simp only [isBareUuid, Bool.or_eq_true, Bool.and_eq_true, beq_iff_eq] at bare
  rcases bare with (⟨-, digits⟩ | hyphenated) | ⟨start, hyphenated⟩
  · exact fun c mem => .of_isHexDigit (all_eq_true.1 digits c mem)
  · exact .of_isHyphenated hyphenated
  · have startChars : ("urn:uuid:".toList.all fun d => d.toNat < 0x80 ∧ d ≠ 'k' ∧ d ≠ '(')
        = true := by decide
    rw [start, all_map, all_eq_true] at startChars
    rw [← take_append_drop 9 text, forall_mem_append]
    refine ⟨fun c mem => ?_, .of_isHyphenated hyphenated⟩
    obtain ⟨early, noKelvin, noParenthesis⟩ := of_decide_eq_true (startChars c mem)
    refine ⟨?_, ?_, ?_⟩
    · by_contra late
      rw [toLower_of_late (Nat.not_lt.1 late)] at early
      exact late early
    · rintro rfl
      exact noKelvin rfl
    · rintro rfl
      exact noParenthesis rfl

/-- Only ASCII texts have a bare UUID as their lower case. -/
lemma lower_eq_map_of_isBareUuid (bare : isBareUuid (lower text) = true) :
    lower text = text.map Char.toLower :=
  (lowersTo_lower text).eq_map_toLower fun d mem =>
    have isChar := isUuidChar_of_mem bare d mem
    ⟨isChar.early, isChar.noKelvin⟩

/-- A text is a bare UUID if its lower case is one.  If the prefix counted in lower case only, this
would fail for a text that has it in capitals. -/
lemma isBareUuid_of_lower (bare : isBareUuid (lower text) = true) : isBareUuid text = true := by
  rwa [lower_eq_map_of_isBareUuid bare, isBareUuid_map_toLower] at bare

end DocAudit.Text
