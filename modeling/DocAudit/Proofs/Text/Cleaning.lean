import Mathlib.Data.List.Infix
import DocAudit.Proofs.Text.Split
import DocAudit.Proofs.Text.Untouched

/-!
# Texts that are clean

A step of cleaning leaves a text as it is or makes it shorter (`Shrinks`).  So if several steps
together leave a text as it is, each of them does (`Shrinks.unchanged`), and what a clean text looks
like can be read off the steps one by one: nothing is trimmed off its ends (`trimBy_eq_self_iff`),
and no stretch that is replaced occurs in it (`replaceAll_eq_self_iff`).

Whether a stretch occurs in a text with something before and behind it is decided by the text alone,
if what stands around it lacks the ends of the stretch (`infix_of_append_left`,
`infix_of_append_right`).
-/

namespace DocAudit.Text

open List

variable {text needle replacement before after more start ending rest : List Char} {mark : Char}
  {p : Char → Bool} {first second : List Char → List Char}

/-! ## Steps of cleaning -/

/-- A change that leaves a text as it is or makes it shorter. -/
def Shrinks (change : List Char → List Char) : Prop :=
  ∀ text, change text = text ∨ (change text).length < text.length

namespace Shrinks

lemma length_le (h : Shrinks first) (text : List Char) : (first text).length ≤ text.length := by
  rcases h text with same | shorter
  · rw [same]
  · exact Nat.le_of_lt shorter

lemma comp (h : Shrinks second) (g : Shrinks first) : Shrinks (second ∘ first) := by
  intro text
  rcases g text with same | shorter
  · rw [Function.comp_apply, same]
    exact h text
  · exact .inr (Nat.lt_of_le_of_lt (h.length_le _) shorter)

/-- Steps that change nothing together change nothing on their own. -/
lemma unchanged (h : Shrinks second) (g : Shrinks first) (same : second (first text) = text) :
    first text = text ∧ second text = text := by
  have length : text.length ≤ (first text).length := by
    rw [← congrArg List.length same]
    exact h.length_le (first text)
  rcases g text with kept | shorter
  · rw [kept] at same
    exact ⟨kept, same⟩
  · exact absurd shorter (Nat.not_lt.2 length)

end Shrinks

lemma shrinks_foldl {steps : List (List Char → List Char)} (shrink : ∀ step ∈ steps, Shrinks step) :
    Shrinks fun text => steps.foldl (fun text step => step text) text := by
  induction steps with
  | nil => exact fun _ => .inl rfl
  | cons step rest ih =>
      obtain ⟨shrinks, shrink⟩ := forall_mem_cons.1 shrink
      exact (ih shrink).comp shrinks

/-- All steps together change nothing if none of them does. -/
lemma foldl_eq_self_iff {steps : List (List Char → List Char)}
    (shrink : ∀ step ∈ steps, Shrinks step) :
    steps.foldl (fun text step => step text) text = text ↔ ∀ step ∈ steps, step text = text := by
  induction steps with
  | nil => simp
  | cons step rest ih =>
      obtain ⟨shrinks, shrink⟩ := forall_mem_cons.1 shrink
      rw [foldl_cons, forall_mem_cons, ← ih shrink]
      constructor
      · exact (shrinks_foldl shrink).unchanged shrinks
      · rintro ⟨kept, same⟩
        rwa [kept]

/-- Leaving characters out makes a text shorter. -/
lemma shrinks_of_sublist (leaves : ∀ text, first text <+ text) : Shrinks first := by
  intro text
  rcases Nat.lt_or_ge (first text).length text.length with shorter | long
  · exact .inr shorter
  · exact .inl ((leaves text).eq_of_length_le long)

/-! ## Ends -/

lemma trimStartBy_sublist (p : Char → Bool) (text : List Char) : trimStartBy p text <+ text :=
  dropWhile_sublist p

lemma trimEndBy_sublist (p : Char → Bool) (text : List Char) : trimEndBy p text <+ text := by
  rw [← reverse_sublist, trimEndBy, reverse_reverse]
  exact dropWhile_sublist p

lemma shrinks_trimBy (p : Char → Bool) : Shrinks (trimBy p) :=
  (shrinks_of_sublist (trimEndBy_sublist p)).comp (shrinks_of_sublist (trimStartBy_sublist p))

lemma trimStartBy_eq_self_iff : trimStartBy p text = text ↔ ∀ c ∈ text.head?, p c = false := by
  cases text with
  | nil => simp [trimStartBy]
  | cons c rest =>
      rw [trimStartBy, dropWhile_eq_self_iff]
      simp

lemma trimEndBy_eq_self_iff : trimEndBy p text = text ↔ ∀ c ∈ text.getLast?, p c = false := by
  rw [trimEndBy, reverse_eq_iff, ← trimStartBy, trimStartBy_eq_self_iff, head?_reverse]

/-- Nothing is trimmed off a text if nothing has to be at either end. -/
lemma trimBy_eq_self_iff :
    trimBy p text = text ↔ (∀ c ∈ text.head?, p c = false) ∧ ∀ c ∈ text.getLast?, p c = false := by
  rw [← trimStartBy_eq_self_iff, ← trimEndBy_eq_self_iff]
  constructor
  · exact (shrinks_of_sublist (trimEndBy_sublist p)).unchanged
      (shrinks_of_sublist (trimStartBy_sublist p))
  · rintro ⟨atStart, atEnd⟩
    rw [trimBy, atStart, atEnd]

/-! ## Stretches -/

section

variable (short : replacement.length < needle.length)
include short

/-- Replacing a stretch by a shorter one makes a text with the stretch shorter, and leaves other
texts. -/
lemma replaceAll_cases (text : List Char) :
    (needle <:+: text ∧ (replaceAll needle replacement text).length < text.length)
      ∨ (¬ needle <:+: text ∧ replaceAll needle replacement text = text) := by
  induction text with
  | nil =>
      refine .inr ⟨fun occurs => ?_, rfl⟩
      rw [eq_nil_of_infix_nil occurs] at short
      exact Nat.not_lt_zero _ short
  | cons c rest ih =>
      rw [replaceAll, replaceFrom, infix_cons_iff, ← isPrefixOf_iff_prefix]
      by_cases here : needle.isPrefixOf (c :: rest) = true
      · have starts := isPrefixOf_iff_prefix.1 here
        have fits := starts.length_le
        have copied := length_replaceFrom_le (Nat.le_of_lt short) (needle.length - 1) rest
        rw [if_pos here, length_append]
        refine .inl ⟨.inl here, ?_⟩
        rw [length_cons] at fits ⊢
        omega
      · rw [if_neg here, or_iff_right here, length_cons, length_cons, Nat.succ_lt_succ_iff,
          cons_inj_right]
        exact ih

lemma shrinks_replaceAll : Shrinks (replaceAll needle replacement) := by
  intro text
  rcases replaceAll_cases short text with ⟨-, shorter⟩ | ⟨-, same⟩
  · exact .inr shorter
  · exact .inl same

/-- Replacing leaves exactly the texts without the stretch. -/
lemma replaceAll_eq_self_iff : replaceAll needle replacement text = text ↔ ¬ needle <:+: text := by
  rcases replaceAll_cases short text with ⟨occurs, shorter⟩ | ⟨absent, same⟩
  · refine iff_of_false (fun same => ?_) (not_not.2 occurs)
    rw [same] at shorter
    exact Nat.lt_irrefl _ shorter
  · exact iff_of_true same absent

end

/-- A stretch starts behind a text without its first character. -/
lemma infix_of_append_left (absent : mark ∉ before) (occurs : mark :: more <:+: before ++ text) :
    mark :: more <:+: text := by
  induction before with
  | nil => exact occurs
  | cons c rest ih =>
      obtain ⟨different, absent⟩ := not_or.1 (mt mem_cons.2 absent)
      rcases infix_cons_iff.1 occurs with here | later
      · exact absurd (cons_prefix_cons.1 here).1 different
      · exact ih absent later

/-- A stretch ends before a text without its last character. -/
lemma infix_of_append_right (absent : mark ∉ after) (occurs : more ++ [mark] <:+: text ++ after) :
    more ++ [mark] <:+: text := by
  rw [← reverse_infix, reverse_append, reverse_singleton, singleton_append] at occurs ⊢
  rw [reverse_append] at occurs
  exact infix_of_append_left (by simpa using absent) occurs

/-! ## Words at the ends -/

lemma length_eq_of_equalIgnoringAsciiCase (equal : equalIgnoringAsciiCase text needle = true) :
    text.length = needle.length := by
  have same := congrArg List.length (eq_of_beq equal)
  rwa [length_map, length_map] at same

/-- A word is taken off the start of a text if the text starts with it. -/
lemma dropStartIgnoringAsciiCase?_eq_some_iff : dropStartIgnoringAsciiCase? start text = some rest ↔
    ∃ written, text = written ++ rest ∧ equalIgnoringAsciiCase written start = true := by
  rw [dropStartIgnoringAsciiCase?, Option.ite_none_right_eq_some, Option.some_inj]
  constructor
  · rintro ⟨equal, rfl⟩
    exact ⟨_, (take_append_drop _ _).symm, equal⟩
  · rintro ⟨written, rfl, equal⟩
    have length := length_eq_of_equalIgnoringAsciiCase equal
    rw [← length, take_left, drop_left]
    exact ⟨equal, rfl⟩

/-- A text that starts unlike a word does not start with the word. -/
lemma dropStartIgnoringAsciiCase?_append_eq_none
    (unlike : ¬ (before.map Char.toLower <+: start.map Char.toLower
      ∨ start.map Char.toLower <+: before.map Char.toLower)) :
    dropStartIgnoringAsciiCase? start (before ++ text) = none := by
  refine Option.eq_none_iff_forall_ne_some.2 fun rest found => unlike ?_
  obtain ⟨written, whole, equal⟩ := dropStartIgnoringAsciiCase?_eq_some_iff.1 found
  rw [← eq_of_beq equal]
  refine prefix_or_prefix_of_prefix (prefix_append _ (text.map Char.toLower)) ?_
  rw [← map_append, whole, map_append]
  exact prefix_append _ _

/-- A word is taken off the end of a text if the text ends with it. -/
lemma dropEndIgnoringAsciiCase?_eq_some_iff : dropEndIgnoringAsciiCase? ending text = some rest ↔
    ∃ written, text = rest ++ written ∧ equalIgnoringAsciiCase written ending = true := by
  simp only [dropEndIgnoringAsciiCase?, Bool.and_eq_true, decide_eq_true_eq,
    Option.ite_none_right_eq_some, Option.some_inj]
  constructor
  · rintro ⟨⟨-, equal⟩, rfl⟩
    exact ⟨_, (take_append_drop _ _).symm, equal⟩
  · rintro ⟨written, rfl, equal⟩
    have length := length_eq_of_equalIgnoringAsciiCase equal
    rw [length_append, ← length, Nat.add_sub_cancel, take_left, drop_left]
    exact ⟨⟨Nat.le_add_left _ _, equal⟩, rfl⟩

/-- A text that ends unlike a word does not end with the word. -/
lemma dropEndIgnoringAsciiCase?_append_eq_none
    (unlike : ¬ (after.map Char.toLower <:+ ending.map Char.toLower
      ∨ ending.map Char.toLower <:+ after.map Char.toLower)) :
    dropEndIgnoringAsciiCase? ending (text ++ after) = none := by
  refine Option.eq_none_iff_forall_ne_some.2 fun rest found => unlike ?_
  obtain ⟨written, whole, equal⟩ := dropEndIgnoringAsciiCase?_eq_some_iff.1 found
  rw [← eq_of_beq equal]
  refine suffix_or_suffix_of_suffix (suffix_append (text.map Char.toLower) _) ?_
  rw [← map_append, whole, map_append]
  exact suffix_append _ _

/-- The same with regard to case. -/
lemma isSuffixOf?_append_eq_none (unlike : ¬ (after <:+ ending ∨ ending <:+ after)) :
    ending.isSuffixOf? (text ++ after) = none := by
  refine Option.eq_none_iff_forall_ne_some.2 fun rest found => unlike ?_
  refine suffix_or_suffix_of_suffix (suffix_append text _) ?_
  rw [eq_append_of_isSuffixOf? found]
  exact suffix_append _ _

end DocAudit.Text
