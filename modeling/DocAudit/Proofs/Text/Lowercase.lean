import DocAudit.Text.Lowercase
import DocAudit.Proofs.Text.Untouched
import Mathlib.Data.Bool.AllAny
import Mathlib.Data.List.Basic

/-!
# Texts in lower case

`Lowers` lists what may become of a character in lower case, and a text in lower case consists of
such pieces, one for each character (`LowersTo`).  What holds of lower case follows by these cases:

* An ASCII character that is no letter comes from itself alone (`Lowers.eq_of_mem`).  So a text
  without such a mark has none in lower case either (`mark_not_mem_lower`): a title without
  wildcards stays one, and a name without points does.
* Nothing in a text in lower case has another lower case (`isSettled_of_mem_lower`), and so it stays
  as it is (`lower_eq_self`).
-/

namespace DocAudit.Text

open List

variable {c d mark : Char} {text piece : List Char} {n : ℕ}

/-- What holds of the first 128 characters holds of every character that is one of them. -/
lemma forall_ascii (Good : Char → Prop) (all : ∀ n < 0x80, Good (Char.ofNat n))
    (ascii : c.toNat < 0x80) : Good c := by
  have good := all c.toNat ascii
  rwa [Char.ofNat_toNat] at good

/-! ## Runs -/

/-- The lower-case forms of all runs are code points of characters. -/
lemma isValidChar_lower {run : CaseRun} (mem : run ∈ caseRuns) (inside : n ≤ run.last - run.first) :
    (run.lower + n).isValidChar := by
  have ends : ∀ run ∈ caseRuns, run.lower + (run.last - run.first) < 0xD800
      ∨ 0xDFFF < run.lower ∧ run.lower + (run.last - run.first) < 0x110000 := by
    decide +kernel
  rcases ends run mem with before | ⟨behind, small⟩
  · exact .inl (by omega)
  · exact .inr ⟨by omega, by omega⟩

/-- Among the ASCII characters only letters are lower-case forms, and only one of them is the form
of a character that is none. -/
lemma lower_letters : ∀ run ∈ caseRuns,
    'a'.toNat ≤ run.lower ∧ run.lower + (run.last - run.first) ≤ 'z'.toNat
        ∧ (run.last < 0x80 ∨ run.first = run.last ∧ run.lower = 'k'.toNat)
      ∨ 0x80 ≤ run.lower := by
  decide +kernel

/-- A code point that has no other lower-case form. -/
def IsSettled (n : ℕ) : Prop :=
  n ≠ 'İ'.toNat ∧ ∀ run ∈ caseRuns, run.holds n = false

instance (n : ℕ) : Decidable (IsSettled n) :=
  inferInstanceAs (Decidable (_ ∧ _))

/-- Lower-case forms come before or behind the members of each run, or in between. -/
lemma lower_apart_runs : ∀ run ∈ caseRuns, ∀ other ∈ caseRuns,
    run.lower + (run.last - run.first) < other.first ∨ other.last < run.lower
      ∨ (run.step = 2 ∨ run.first = run.last) ∧ other.step = 2
        ∧ (run.lower + other.first) % 2 = 1 := by
  have apart : (caseRuns.all fun run => caseRuns.all fun other =>
      Nat.blt (run.lower + (run.last - run.first)) other.first || Nat.blt other.last run.lower
        || (run.step == 2 || run.first == run.last) && other.step == 2
          && (run.lower + other.first) % 2 == 1) = true := by
    decide +kernel
  simpa [or_assoc, and_assoc, Nat.blt_eq] using apart

lemma isSettled_lower {run : CaseRun} (mem : run ∈ caseRuns) (holds : run.holds n = true) :
    IsSettled (run.lower + (n - run.first)) := by
  have dotted : ∀ run ∈ caseRuns, run.lower + (run.last - run.first) < 'İ'.toNat
      ∨ 'İ'.toNat < run.lower := by
    decide +kernel
  simp only [CaseRun.holds, Bool.and_eq_true, decide_eq_true_iff, beq_iff_eq] at holds
  refine ⟨?_, fun other isOther => ?_⟩
  · have apart := dotted run mem
    omega
  · rw [← Bool.not_eq_true]
    simp only [CaseRun.holds, Bool.and_eq_true, decide_eq_true_iff, beq_iff_eq]
    rcases lower_apart_runs run mem other isOther with before | behind
      | ⟨step | single, otherStep, odd⟩
    · omega
    · omega
    · rw [step] at holds
      rw [otherStep]
      omega
    · rw [otherStep]
      omega

/-- Of the ASCII characters, all but capital letters are settled. -/
lemma isSettled_iff_of_lt (early : n < 0x80) : IsSettled n ↔ ¬ ('A'.toNat ≤ n ∧ n ≤ 'Z'.toNat) := by
  have firstRun : ⟨0x41, 0x5A, 1, 0x61⟩ ∈ caseRuns := mem_cons_self
  have others : ∀ run ∈ caseRuns, 'A'.toNat ≤ run.first ∧ run.last ≤ 'Z'.toNat
      ∨ 0x80 ≤ run.first := by decide +kernel
  have behind : 0x80 < 'İ'.toNat := by decide
  constructor
  · rintro ⟨-, missed⟩ ⟨first, last⟩
    have held := missed _ firstRun
    simp only [CaseRun.holds, Nat.mod_one, beq_self_eq_true, Bool.and_true, Bool.and_eq_false_iff,
      decide_eq_false_iff_not] at held
    exact held.elim (absurd first) (absurd last)
  · intro small
    refine ⟨by omega, fun run mem => ?_⟩
    rw [← Bool.not_eq_true, CaseRun.holds, Bool.and_eq_true, Bool.and_eq_true, decide_eq_true_iff,
      decide_eq_true_iff]
    have apart := others run mem
    omega

/-! ## Characters -/

/-- What a character of a text may be in lower case. -/
inductive Lowers (c : Char) : List Char → Prop
  | ascii (early : c.toNat < 0x80) : Lowers c [c.toLower]
  | dotted (late : 0x80 ≤ c.toNat) : Lowers c ['i', Char.ofNat 0x307]
  | sigma {d : Char} (late : 0x80 ≤ c.toNat) (isSigma : d = 'σ' ∨ d = 'ς') : Lowers c [d]
  | run {run : CaseRun} {d : Char} (late : 0x80 ≤ c.toNat) (mem : run ∈ caseRuns)
      (holds : run.holds c.toNat = true)
      (number : d.toNat = run.lower + (c.toNat - run.first)) : Lowers c [d]
  | other (late : 0x80 ≤ c.toNat) (settled : IsSettled c.toNat) : Lowers c [c]

lemma lowers_lowerChar (c : Char) : Lowers c (lowerChar c) := by
  unfold lowerChar
  split
  · next early => exact .ascii early
  · next late =>
      rw [Nat.not_lt] at late
      split
      · exact .dotted late
      · next plain =>
          split
          · next run found =>
              have mem := mem_of_find?_eq_some found
              have holds := find?_some found
              have inside : c.toNat - run.first ≤ run.last - run.first := by
                simp only [CaseRun.holds, Bool.and_eq_true, decide_eq_true_iff] at holds
                omega
              refine .run late mem holds ?_
              rw [Char.ofNat, dif_pos (isValidChar_lower mem inside)]
              rfl
          · next missed =>
              refine .other late ⟨fun same => plain ?_, fun run mem => ?_⟩
              · rw [beq_iff_eq, ← Char.toNat_inj]
                exact same
              · simpa using find?_eq_none.1 missed run mem

namespace Lowers

lemma ne_nil (h : Lowers c piece) : piece ≠ [] := by
  cases h <;> exact cons_ne_nil _ _

/-- An ASCII character that is no letter comes from itself alone. -/
lemma eq_of_mem (h : Lowers c piece) (mem : d ∈ piece) (early : d.toNat < 0x80)
    (noLetter : d.isAlpha = false) :
    d = c := by
  cases h with
  | ascii ascii =>
      have lowered : ∀ n < 0x80, (Char.ofNat n).toLower.isAlpha = false →
          (Char.ofNat n).toLower = Char.ofNat n := by
        decide +kernel
      rw [mem_singleton.1 mem] at noLetter ⊢
      exact forall_ascii (fun c => c.toLower.isAlpha = false → c.toLower = c) lowered ascii noLetter
  | dotted =>
      have late : (['i', Char.ofNat 0x307].all fun d => d.isAlpha || 0x80 ≤ d.toNat)
          = true := by decide
      have isLate := all_eq_true.1 late d mem
      rw [noLetter, Bool.false_or, decide_eq_true_iff] at isLate
      omega
  | sigma late isSigma =>
      rw [mem_singleton] at mem
      rcases isSigma with rfl | rfl <;> subst mem <;> exact absurd early (by decide)
  | run late isRun holds number =>
      obtain rfl := mem_singleton.1 mem
      have letters : ∀ n < 0x80, 'a'.toNat ≤ n → n ≤ 'z'.toNat →
          (Char.ofNat n).isAlpha = true := by decide +kernel
      rw [CaseRun.holds, Bool.and_eq_true, Bool.and_eq_true, decide_eq_true_iff,
        decide_eq_true_iff] at holds
      rcases lower_letters _ isRun with ⟨first, last, -⟩ | behind
      · have isLetter := letters d.toNat early (by omega) (by omega)
        rw [Char.ofNat_toNat, noLetter] at isLetter
        cases isLetter
      · omega
  | other => exact mem_singleton.1 mem

/-- Lower case has no other lower case. -/
lemma isSettled (h : Lowers c piece) (mem : d ∈ piece) : IsSettled d.toNat := by
  cases h with
  | ascii ascii =>
      have lowered : ∀ n < 0x80, (Char.ofNat n).toLower.toNat < 0x80
          ∧ ¬ ('A'.toNat ≤ (Char.ofNat n).toLower.toNat
            ∧ (Char.ofNat n).toLower.toNat ≤ 'Z'.toNat) := by
        decide +kernel
      obtain ⟨early, small⟩ := forall_ascii (fun c => c.toLower.toNat < 0x80
        ∧ ¬ ('A'.toNat ≤ c.toLower.toNat ∧ c.toLower.toNat ≤ 'Z'.toNat)) lowered ascii
      rw [mem_singleton.1 mem]
      exact (isSettled_iff_of_lt early).2 small
  | dotted =>
      have settled : (['i', Char.ofNat 0x307].all fun d => IsSettled d.toNat) = true := by
        decide +kernel
      exact of_decide_eq_true (all_eq_true.1 settled d mem)
  | sigma late isSigma =>
      have settled : IsSettled 'σ'.toNat ∧ IsSettled 'ς'.toNat := by decide +kernel
      rcases isSigma with rfl | rfl
      · exact mem_singleton.1 mem ▸ settled.1
      · exact mem_singleton.1 mem ▸ settled.2
  | run late isRun holds number =>
      rw [mem_singleton.1 mem, number]
      exact isSettled_lower isRun holds
  | other late settled => exact mem_singleton.1 mem ▸ settled

/-- Apart from one letter, the lower case of other characters has other characters. -/
lemma eq_toLower (h : Lowers c piece) (early : ∀ d ∈ piece, d.toNat < 0x80 ∧ d ≠ 'k') :
    piece = [c.toLower] := by
  cases h with
  | ascii => rfl
  | dotted => exact absurd (early (Char.ofNat 0x307) (by simp)).1 (by decide)
  | sigma late isSigma =>
      have ascii := (early _ mem_cons_self).1
      rcases isSigma with rfl | rfl <;> exact absurd ascii (by decide)
  | @run run d late isRun holds number =>
      obtain ⟨ascii, other⟩ := early d mem_cons_self
      rw [CaseRun.holds, Bool.and_eq_true, Bool.and_eq_true, decide_eq_true_iff,
        decide_eq_true_iff] at holds
      rcases lower_letters _ isRun with ⟨-, -, before | ⟨single, isK⟩⟩ | behind
      · omega
      · refine absurd (Char.toNat_inj.1 ?_) other
        omega
      · omega
  | other late => exact absurd (early c mem_cons_self).1 (Nat.not_lt.2 late)

end Lowers

/-- A settled character is its own lower case. -/
lemma lowerChar_of_isSettled (settled : IsSettled c.toNat) : lowerChar c = [c] := by
  unfold lowerChar
  split
  · next ascii =>
      have small : ¬ (c.val ≥ 'A'.val ∧ c.val ≤ 'Z'.val) := (isSettled_iff_of_lt ascii).1 settled
      have same : c.toLower = c := dif_neg small
      rw [same]
  · rw [if_neg fun dotted => settled.1 (congrArg Char.toNat (eq_of_beq dotted))]
    have missed : caseRuns.find? (·.holds c.toNat) = none :=
      find?_eq_none.2 fun run mem => Bool.not_eq_true _ ▸ settled.2 run mem
    rw [missed]

/-- No other character becomes a mark. -/
lemma mark_not_mem_lowerChar (early : mark.toNat < 0x80) (noLetter : mark.isAlpha = false)
    (different : c ≠ mark) :
    mark ∉ lowerChar c :=
  fun mem => different ((lowers_lowerChar c).eq_of_mem mem early noLetter).symm

/-! ## Texts -/

/-- What a text may be in lower case: each of its characters is replaced by its lower case. -/
inductive LowersTo : List Char → List Char → Prop
  | nil : LowersTo [] []
  | cons {c : Char} {piece text lowered : List Char} (first : Lowers c piece)
      (rest : LowersTo text lowered) :
      LowersTo (c :: text) (piece ++ lowered)

lemma lowersTo_lowerAfter (before text : List Char) : LowersTo text (lowerAfter before text) := by
  induction text generalizing before with
  | nil => exact .nil
  | cons c rest ih =>
      rw [lowerAfter]
      refine .cons ?_ (ih (c :: before))
      split
      · next isSigma =>
          have late : 0x80 ≤ c.toNat := eq_of_beq isSigma ▸ by decide
          split
          · exact .sigma late (.inr rfl)
          · exact .sigma late (.inl rfl)
      · exact lowers_lowerChar c

lemma lowersTo_lower (text : List Char) : LowersTo text (lower text) :=
  lowersTo_lowerAfter [] text

namespace LowersTo

variable {lowered : List Char}

lemma exists_of_mem (h : LowersTo text lowered) (mem : d ∈ lowered) :
    ∃ c ∈ text, ∃ piece, Lowers c piece ∧ d ∈ piece := by
  induction h with
  | nil => cases mem
  | cons first _ ih =>
      rcases mem_append.1 mem with here | later
      · exact ⟨_, mem_cons_self, _, first, here⟩
      · obtain ⟨c, isChar, found⟩ := ih later
        exact ⟨c, mem_cons_of_mem _ isChar, found⟩

lemma eq_nil_iff (h : LowersTo text lowered) : lowered = [] ↔ text = [] := by
  cases h with
  | nil => rfl
  | cons first _ => simp [first.ne_nil]

/-- The first character is a mark only if it is one in the text. -/
lemma head?_eq (h : LowersTo text lowered) (early : mark.toNat < 0x80)
    (noLetter : mark.isAlpha = false)
    (starts : lowered.head? = some mark) : text.head? = some mark := by
  cases h with
  | nil => cases starts
  | cons first _ =>
      rw [head?_append_of_ne_nil _ first.ne_nil] at starts
      rw [head?_cons, first.eq_of_mem (mem_of_mem_head? starts) early noLetter]

/-- The last character is a mark only if it is one in the text. -/
lemma getLast?_eq (h : LowersTo text lowered) (early : mark.toNat < 0x80)
    (noLetter : mark.isAlpha = false)
    (ends : lowered.getLast? = some mark) : text.getLast? = some mark := by
  induction h with
  | nil => cases ends
  | @cons c piece text lowered first rest ih =>
      by_cases last : lowered = []
      · rw [last, append_nil] at ends
        rw [rest.eq_nil_iff.1 last, getLast?_singleton,
          first.eq_of_mem (mem_of_getLast? ends) early noLetter]
      · rw [getLast?_append_of_ne_nil _ last] at ends
        rw [getLast?_cons, ih ends]
        rfl

/-- Lower case that is ASCII throughout is that of an ASCII text, if it is without one letter. -/
lemma eq_map_toLower (h : LowersTo text lowered) (early : ∀ d ∈ lowered, d.toNat < 0x80 ∧ d ≠ 'k') :
    lowered = text.map Char.toLower := by
  induction h with
  | nil => rfl
  | cons first _ ih =>
      rw [forall_mem_append] at early
      rw [first.eq_toLower early.1, ih early.2]
      rfl

end LowersTo

/-- A text without a mark has none in lower case. -/
theorem mark_not_mem_lower (early : mark.toNat < 0x80) (noLetter : mark.isAlpha = false)
    (absent : mark ∉ text) :
    mark ∉ lower text := by
  intro mem
  obtain ⟨c, isChar, piece, lowers, isPiece⟩ := (lowersTo_lower text).exists_of_mem mem
  exact absent (lowers.eq_of_mem isPiece early noLetter ▸ isChar)

/-- A text in lower case has no other lower case. -/
lemma isSettled_of_mem_lower (mem : d ∈ lower text) : IsSettled d.toNat := by
  obtain ⟨c, -, piece, lowers, isPiece⟩ := (lowersTo_lower text).exists_of_mem mem
  exact lowers.isSettled isPiece

lemma lower_eq_self (settled : ∀ c ∈ text, IsSettled c.toNat) : lower text = text := by
  rw [lower]
  generalize [] = before
  induction text generalizing before with
  | nil => rfl
  | cons c rest ih =>
      obtain ⟨here, later⟩ := forall_mem_cons.1 settled
      have noSigma : ¬ (c == 'Σ') = true := by
        rw [beq_iff_eq]
        rintro rfl
        exact absurd here (by decide +kernel)
      rw [lowerAfter, if_neg noSigma, lowerChar_of_isSettled here, ih later, singleton_append]

end DocAudit.Text
