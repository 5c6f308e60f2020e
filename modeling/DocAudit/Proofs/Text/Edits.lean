import DocAudit.Proofs.Text.EditDistance
import Mathlib.Order.Bounds.Defs
import Mathlib.Order.Lattice.Nat

/-!
# Edits

Texts are edited by single characters, each of which is inserted, deleted or substituted anywhere in
the text (`Edit`).  The computed distance of two texts is the least number of edits that turn one
into the other (`editDistance_levenshtein`).

That so many edits are enough is read off the recursion (`edits_distance`).  That fewer are not is
the triangle inequality (`distance_triangle`), because a single edit leads to a text at distance one
at most (`Edit.distance_le`).
-/

namespace DocAudit.Text

open List

/-- A single character of a text is inserted, deleted or substituted. -/
inductive Edit : List Char → List Char → Prop
  | insert (before after : List Char) (c : Char) : Edit (before ++ after) (before ++ c :: after)
  | delete (before after : List Char) (c : Char) : Edit (before ++ c :: after) (before ++ after)
  | substitute (before after : List Char) (c d : Char) :
      Edit (before ++ c :: after) (before ++ d :: after)

/-- A number of edits, one after the other. -/
inductive Edits : ℕ → List Char → List Char → Prop
  | none (text : List Char) : Edits 0 text text
  | more {count : ℕ} {a b c : List Char} (first : Edit a b) (later : Edits count b c) :
      Edits (count + 1) a c

variable {a b text : List Char} {c d : Char} {count : ℕ}

/-! ## Edits in longer texts -/

lemma Edit.cons (h : Edit a b) (c : Char) : Edit (c :: a) (c :: b) := by
  cases h with
  | insert before after d => exact .insert (c :: before) after d
  | delete before after d => exact .delete (c :: before) after d
  | substitute before after d e => exact .substitute (c :: before) after d e

lemma Edits.cons (h : Edits count a b) (c : Char) : Edits count (c :: a) (c :: b) := by
  induction h with
  | none text => exact .none (c :: text)
  | more first _ ih => exact .more (first.cons c) ih

/-- Texts that are read backwards are edited in the same way. -/
lemma Edit.reverse (h : Edit a b) : Edit a.reverse b.reverse := by
  cases h with
  | insert before after c =>
      simpa using Edit.insert after.reverse before.reverse c
  | delete before after c =>
      simpa using Edit.delete after.reverse before.reverse c
  | substitute before after c d =>
      simpa using Edit.substitute after.reverse before.reverse c d

lemma Edits.reverse (h : Edits count a b) : Edits count a.reverse b.reverse := by
  induction h with
  | none text => exact .none text.reverse
  | more first _ ih => exact .more first.reverse ih

lemma edits_reverse_iff : Edits count a.reverse b.reverse ↔ Edits count a b := by
  refine ⟨fun h => ?_, Edits.reverse⟩
  simpa using h.reverse

/-! ## As many edits as the distance -/

lemma edits_insert (text : List Char) : Edits text.length [] text := by
  induction text with
  | nil => exact .none []
  | cons c text ih => exact .more (.insert [] [] c) (ih.cons c)

lemma edits_delete (text : List Char) : Edits text.length text [] := by
  induction text with
  | nil => exact .none []
  | cons c text ih => exact .more (.delete [] text c) ih

/-- The distance counts the first characters as made equal, or one of them as deleted or
inserted. -/
lemma distance_cons_cons_cases (c d : Char) (a b : List Char) :
    distance (c :: a) (d :: b) = distance a b + (if c = d then 0 else 1)
      ∨ distance (c :: a) (d :: b) = distance a (d :: b) + 1
      ∨ distance (c :: a) (d :: b) = distance (c :: a) b + 1 := by
  rw [distance_cons_cons]
  generalize (if c = d then 0 else 1) = change
  omega

lemma edits_distance (a b : List Char) : Edits (distance a b) a b := by
  induction a, b using distance.induct with
  | case1 b =>
      rw [distance_nil_left]
      exact edits_insert b
  | case2 c a =>
      rw [distance_nil_right]
      exact edits_delete (c :: a)
  | case3 c a d b equal delete insert =>
      have equalFirst : Edits (distance a b + if c = d then 0 else 1) (c :: a) (d :: b) := by
        split
        · next same =>
            subst same
            exact equal.cons c
        · exact .more (.substitute [] a c d) (equal.cons d)
      have deleteFirst : Edits (distance a (d :: b) + 1) (c :: a) (d :: b) :=
        .more (.delete [] a c) delete
      have insertFirst : Edits (distance (c :: a) b + 1) (c :: a) (d :: b) :=
        .more (.insert [] (c :: a) d) (insert.cons d)
      rcases distance_cons_cons_cases c d a b with least | least | least
      · rw [least]; exact equalFirst
      · rw [least]; exact deleteFirst
      · rw [least]; exact insertFirst

/-! ## Bounds of the distance -/

lemma distance_cons_cons_le (c d : Char) (a b : List Char) :
    distance (c :: a) (d :: b) ≤ distance a b + if c = d then 0 else 1 := by
  rw [distance_cons_cons]
  omega

lemma distance_cons_left_le (c : Char) (a b : List Char) :
    distance (c :: a) b ≤ distance a b + 1 := by
  cases b with
  | nil => simp
  | cons d b =>
      rw [distance_cons_cons]
      omega

lemma distance_cons_right_le (a : List Char) (d : Char) (b : List Char) :
    distance a (d :: b) ≤ distance a b + 1 := by
  rw [distance_comm, distance_comm a b]
  exact distance_cons_left_le d b a

/-- What is equal in front adds nothing. -/
lemma distance_append_left_le (before a b : List Char) :
    distance (before ++ a) (before ++ b) ≤ distance a b := by
  induction before with
  | nil => exact le_rfl
  | cons c before ih =>
      have equal := distance_cons_cons_le c c (before ++ a) (before ++ b)
      rw [if_pos rfl] at equal
      exact equal.trans ih

lemma length_le_distance (a b : List Char) : a.length ≤ distance a b + b.length := by
  induction a, b using distance.induct with
  | case1 b => simp
  | case2 c a => simp
  | case3 c a d b equal delete insert =>
      simp only [length_cons] at delete insert ⊢
      rw [distance_cons_cons]
      omega

lemma distance_le_max (a b : List Char) : distance a b ≤ max a.length b.length := by
  induction a, b using distance.induct with
  | case1 b => simp
  | case2 c a => simp
  | case3 c a d b equal delete insert =>
      simp only [length_cons]
      rw [distance_cons_cons]
      split <;> omega

/-- **The triangle inequality** of the distance by recursion: the last steps of the two ways make a
step or two steps of the direct way. -/
theorem distance_triangle : ∀ a b c : List Char, distance a c ≤ distance a b + distance b c
  | [], b, c => by
      have long := length_le_distance c b
      rw [distance_comm c b] at long
      rw [distance_nil_left, distance_nil_left]
      omega
  | x :: a, b, [] => by
      have long := length_le_distance (x :: a) b
      rw [distance_nil_right, distance_nil_right]
      omega
  | x :: a, [], z :: c => by
      have short := distance_le_max (x :: a) (z :: c)
      rw [distance_nil_right, distance_nil_left]
      omega
  | x :: a, y :: b, z :: c => by
      have equal := distance_cons_cons_le x z a c
      have delete := distance_cons_left_le x a (z :: c)
      have insert := distance_cons_right_le (x :: a) z c
      rcases distance_cons_cons_cases x y a b with first | first | first
      · rcases distance_cons_cons_cases y z b c with second | second | second
        · have shorter := distance_triangle a b c
          have differ : (if x = z then 0 else 1)
              ≤ (if x = y then 0 else 1) + if y = z then 0 else 1 := by
            grind
          omega
        · have shorter := distance_triangle a b (z :: c)
          omega
        · have shorter := distance_triangle (x :: a) (y :: b) c
          omega
      · have shorter := distance_triangle a (y :: b) (z :: c)
        omega
      · rcases distance_cons_cons_cases y z b c with second | second | second
        · have shorter := distance_triangle (x :: a) b c
          omega
        · have shorter := distance_triangle (x :: a) b (z :: c)
          omega
        · have shorter := distance_triangle (x :: a) (y :: b) c
          omega
termination_by a b c => a.length + b.length + c.length

/-! ## No fewer edits than the distance -/

lemma Edit.distance_le (h : Edit a b) : distance a b ≤ 1 := by
  cases h with
  | insert before after c =>
      have here := distance_append_left_le before after (c :: after)
      have inserted := distance_cons_right_le after c after
      rw [distance_self] at inserted
      exact here.trans inserted
  | delete before after c =>
      have here := distance_append_left_le before (c :: after) after
      have deleted := distance_cons_left_le c after after
      rw [distance_self] at deleted
      exact here.trans deleted
  | substitute before after c d =>
      have here := distance_append_left_le before (c :: after) (d :: after)
      have substituted := distance_cons_cons_le c d after after
      rw [distance_self] at substituted
      have single : (if c = d then 0 else 1) ≤ 1 := by split <;> omega
      omega

lemma Edits.distance_le (h : Edits count a b) : distance a b ≤ count := by
  induction h with
  | none text => rw [distance_self]
  | @more count a b c first later ih =>
      have single := first.distance_le
      have way := distance_triangle a b c
      omega

/-- The distance by recursion is the least number of edits. -/
theorem isLeast_distance (a b : List Char) : IsLeast {count | Edits count a b} (distance a b) :=
  ⟨edits_distance a b, fun _ run => run.distance_le⟩

/-! ## The computed distance -/

lemma isLeast_editDistance (a b : List Char) :
    IsLeast {count | Edits count a b} (editDistance a b) := by
  have least := isLeast_distance a.reverse b.reverse
  simp only [edits_reverse_iff] at least
  rwa [editDistance_eq]

lemma editDistance_eq_zero_iff (a b : List Char) : editDistance a b = 0 ↔ a = b := by
  constructor
  · intro zero
    have run : Edits (editDistance a b) a b := (isLeast_editDistance a b).1
    rw [zero] at run
    cases run with
    | none => rfl
  · rintro rfl
    exact editDistance_self a

lemma editDistance_triangle (a b c : List Char) :
    editDistance a c ≤ editDistance a b + editDistance b c := by
  rw [editDistance_eq, editDistance_eq, editDistance_eq]
  exact distance_triangle ..

lemma length_le_editDistance (a b : List Char) : a.length ≤ editDistance a b + b.length := by
  have long := length_le_distance a.reverse b.reverse
  rwa [← editDistance_eq, length_reverse, length_reverse] at long

lemma editDistance_le_max (a b : List Char) : editDistance a b ≤ max a.length b.length := by
  have short := distance_le_max a.reverse b.reverse
  rwa [← editDistance_eq, length_reverse, length_reverse] at short

/-- **The computed distance is the least number of edits** that turn one text into the other.  So it
is zero between equal texts only, it is symmetric, no way through a third text is shorter, and it
lies between the difference of the lengths and the larger length. -/
theorem editDistance_levenshtein (a b c : List Char) :
    IsLeast {count | Edits count a b} (editDistance a b)
      ∧ (editDistance a b = 0 ↔ a = b)
      ∧ editDistance a b = editDistance b a
      ∧ editDistance a c ≤ editDistance a b + editDistance b c
      ∧ a.length - b.length ≤ editDistance a b
      ∧ b.length - a.length ≤ editDistance a b
      ∧ editDistance a b ≤ max a.length b.length := by
  refine ⟨isLeast_editDistance a b, editDistance_eq_zero_iff a b, editDistance_comm a b,
    editDistance_triangle a b c, ?_, ?_, editDistance_le_max a b⟩
  · have long := length_le_editDistance a b
    omega
  · have long := length_le_editDistance b a
    rw [editDistance_comm] at long
    omega

example : editDistance "kitten".toList "sitting".toList = 3 := by decide

end DocAudit.Text
