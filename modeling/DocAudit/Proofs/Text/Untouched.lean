import Mathlib.Data.List.TakeWhile
import DocAudit.Page.Block

/-!
# Texts that stay as they are

Cleaning takes characters off the ends of a text and looks for words there.  Neither does anything
to a text in which the characters that are looked for do not occur.  What is looked for regardless
of case counts as well, as long as it has a character that comes before the letters
(`mem_of_equalIgnoringAsciiCase`).
-/

namespace DocAudit.Text

open List

variable {text needle start ending : List Char} {mark : Char}

/-! ## Ends -/

lemma trimStartBy_eq_self {p : Char → Bool} (untouched : ∀ c ∈ text, p c = false) :
    trimStartBy p text = text := by
  rw [trimStartBy, List.dropWhile_eq_self_iff]
  intro long
  simpa using untouched _ (List.getElem_mem long)

lemma trimEndBy_eq_self {p : Char → Bool} (untouched : ∀ c ∈ text, p c = false) :
    trimEndBy p text = text := by
  have turned : trimStartBy p text.reverse = text.reverse :=
    trimStartBy_eq_self fun c mem => untouched c (List.mem_reverse.1 mem)
  rw [trimStartBy] at turned
  rw [trimEndBy, turned, List.reverse_reverse]

lemma trimBy_eq_self {p : Char → Bool} (untouched : ∀ c ∈ text, p c = false) :
    trimBy p text = text := by
  rw [trimBy, trimStartBy_eq_self untouched, trimEndBy_eq_self untouched]

/-- Cleaning adds no characters. -/
lemma trimBy_subset (p : Char → Bool) (text : List Char) : trimBy p text ⊆ text := by
  rw [trimBy, trimEndBy, List.reverse_subset]
  refine List.Subset.trans (List.dropWhile_subset p) ?_
  rw [List.reverse_subset]
  exact List.dropWhile_subset p

lemma trimStartBy_append_cons {p : Char → Bool} (stays : p mark = false)
    (before after : List Char) :
    trimStartBy p (before ++ mark :: after) = trimStartBy p before ++ mark :: after := by
  rw [trimStartBy, List.dropWhile_append, List.dropWhile_cons_of_neg (by simp [stays]), trimStartBy]
  split
  · next gone => rw [List.isEmpty_iff.1 gone, List.nil_append]
  · rfl

/-- The ends around a character that stays are cleaned each by itself. -/
lemma trimBy_append_cons {p : Char → Bool} (stays : p mark = false) (before after : List Char) :
    trimBy p (before ++ mark :: after) = trimStartBy p before ++ mark :: trimEndBy p after := by
  have turned : (after.reverse ++ mark :: (trimStartBy p before).reverse).dropWhile p
      = after.reverse.dropWhile p ++ mark :: (trimStartBy p before).reverse :=
    trimStartBy_append_cons stays _ _
  rw [trimBy, trimStartBy_append_cons stays, trimEndBy, List.reverse_append, List.reverse_cons,
    List.append_assoc, List.singleton_append, turned]
  simp [trimEndBy]

/-- Only a text that is all taken off is empty afterwards. -/
lemma trimEndBy_eq_nil_iff {p : Char → Bool} : trimEndBy p text = [] ↔ ∀ c ∈ text, p c = true := by
  rw [trimEndBy, List.reverse_eq_nil_iff, List.dropWhile_eq_nil_iff]
  simp only [List.mem_reverse]

/-! ## Words regardless of case -/

/-- Characters before the letters have no other case. -/
lemma toLower_eq_self (early : mark.val < 'A'.val) : mark.toLower = mark :=
  dif_neg fun upper => UInt32.not_lt.2 upper.1 early

lemma eq_of_toLower_eq {c : Char} (early : mark.val < 'A'.val) (h : c.toLower = mark) :
    c = mark := by
  by_cases upper : c.val ≥ 'A'.val ∧ c.val ≤ 'Z'.val
  · have raised : c.toLower.val = c.val + ('a'.val - 'A'.val) := congrArg Char.val (dif_pos upper)
    rw [h] at raised
    have raised := congrArg UInt32.toNat raised
    -- as numbers, because `omega` knows nothing of words
    simp [UInt32.lt_iff_toNat_lt, UInt32.le_iff_toNat_le, UInt32.toNat_add] at early upper raised
    omega
  · exact (dif_neg upper).symm.trans h

/-- Texts that are equal up to case have the same characters before the letters. -/
lemma mem_of_equalIgnoringAsciiCase (early : mark.val < 'A'.val)
    (equal : equalIgnoringAsciiCase text needle = true) (mem : mark ∈ needle) : mark ∈ text := by
  rw [equalIgnoringAsciiCase, beq_iff_eq] at equal
  have lowered : mark.toLower ∈ text.map Char.toLower := by
    rw [equal]
    exact List.mem_map_of_mem mem
  obtain ⟨c, inText, same⟩ := List.mem_map.1 lowered
  rw [toLower_eq_self early] at same
  rwa [← eq_of_toLower_eq early same]

lemma dropStartIgnoringAsciiCase?_eq_none (early : mark.val < 'A'.val) (mem : mark ∈ start)
    (absent : mark ∉ text) : dropStartIgnoringAsciiCase? start text = none := by
  rw [dropStartIgnoringAsciiCase?, if_neg]
  exact fun equal => absent (List.mem_of_mem_take (mem_of_equalIgnoringAsciiCase early equal mem))

lemma dropEndIgnoringAsciiCase?_eq_none (early : mark.val < 'A'.val) (mem : mark ∈ ending)
    (absent : mark ∉ text) : dropEndIgnoringAsciiCase? ending text = none := by
  rw [dropEndIgnoringAsciiCase?, if_neg]
  rw [Bool.and_eq_true]
  rintro ⟨-, equal⟩
  exact absent (List.mem_of_mem_drop (mem_of_equalIgnoringAsciiCase early equal mem))

end DocAudit.Text
