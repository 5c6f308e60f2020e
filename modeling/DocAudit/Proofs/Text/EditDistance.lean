import DocAudit.Text.EditDistance
import Mathlib.Data.List.Basic

/-!
# The distance of two texts

The rows of the computation hold the distances of a start of the first text to all starts of the
second one (`foldl_nextRow`).  Since a start grows at its end, the distance is that of the texts
read backwards, computed from their first characters on (`editDistance_eq`).  So it does not matter
which text comes first (`editDistance_comm`).
-/

namespace DocAudit.Text

open List

/-! ## The distance by recursion -/

/-- The distance of two texts by their first characters: either these are made equal, or one of them
is deleted or inserted. -/
def distance : List Char → List Char → Nat
  | [], b => b.length
  | _ :: a, [] => a.length + 1
  | c :: a, d :: b =>
    min (min (distance a b + if c = d then 0 else 1) (distance a (d :: b) + 1))
      (distance (c :: a) b + 1)
termination_by a b => a.length + b.length

variable {a b text before : List Char} {c d : Char}

@[simp] lemma distance_nil_left (b : List Char) : distance [] b = b.length := by
  rw [distance]

@[simp] lemma distance_nil_right (a : List Char) : distance a [] = a.length := by
  cases a with
  | nil => rw [distance]
  | cons c a => rw [distance, length_cons]

lemma distance_cons_cons : distance (c :: a) (d :: b)
    = min (min (distance a b + if c = d then 0 else 1) (distance a (d :: b) + 1))
      (distance (c :: a) b + 1) := by
  rw [distance]

lemma distance_comm (a b : List Char) : distance a b = distance b a := by
  induction a, b using distance.induct with
  | case1 b => simp
  | case2 c a => simp
  | case3 c a d b equal delete insert =>
      have same : (if c = d then 0 else 1) = if d = c then 0 else 1 := by
        simp only [eq_comm]
      rw [distance_cons_cons, distance_cons_cons, equal, delete, insert, same]
      omega

lemma distance_self (a : List Char) : distance a a = 0 := by
  induction a with
  | nil => simp
  | cons c a ih =>
      rw [distance_cons_cons, ih, if_pos rfl]
      omega

/-! ## Rows -/

/-- The distances of a text to the starts of another one that are longer than `before`, where `text`
is the rest.  Both texts are written backwards. -/
def distancesTo (a before : List Char) : List Char → List Nat
  | [] => []
  | x :: text => distance a (x :: before) :: distancesTo a (x :: before) text

/-- The row of a text, written backwards. -/
def row (a b : List Char) : List Nat :=
  distance a [] :: distancesTo a [] b

lemma rowEntries_eq :
    rowEntries c (distance a before) (distance (c :: a) before) text (distancesTo a before text)
    = distancesTo (c :: a) before text := by
  induction text generalizing before with
  | nil => rfl
  | cons x text ih =>
      rw [distancesTo, distancesTo, rowEntries, ← distance_cons_cons, ih]

lemma nextRow_row : nextRow b (row a b) c = row (c :: a) b := by
  have first : distance a [] + 1 = distance (c :: a) [] := by
    simp
  rw [row, nextRow, first, rowEntries_eq, row]

lemma foldl_nextRow (text : List Char) :
    text.foldl (nextRow b) (row a b) = row (text.reverse ++ a) b := by
  induction text generalizing a with
  | nil => rfl
  | cons c text ih => rw [foldl_cons, nextRow_row, ih, reverse_cons, append_assoc, singleton_append]

lemma distancesTo_nil (before text : List Char) :
    distancesTo [] before text = range' (before.length + 1) text.length := by
  induction text generalizing before with
  | nil => rfl
  | cons x text ih => rw [distancesTo, ih, distance_nil_left, length_cons, length_cons, range'_succ]

lemma row_nil (b : List Char) : row [] b = range (b.length + 1) := by
  rw [row, distance_nil_left, distancesTo_nil, range_eq_range', range'_succ]
  rfl

lemma getLastD_distancesTo : (distancesTo a before text).getLastD (distance a before)
    = distance a (text.reverse ++ before) := by
  induction text generalizing before with
  | nil => rfl
  | cons x text ih =>
      rw [distancesTo, getLastD_cons, ih, reverse_cons, append_assoc, singleton_append]

/-! ## The computed distance -/

/-- **The computed distance is the one by recursion,** of the texts read backwards. -/
theorem editDistance_eq (a b : List Char) : editDistance a b = distance a.reverse b.reverse := by
  rw [editDistance, ← row_nil, foldl_nextRow, row, getLastD_cons, getLastD_distancesTo, append_nil,
    append_nil]

theorem editDistance_comm (a b : List Char) : editDistance a b = editDistance b a := by
  rw [editDistance_eq, editDistance_eq, distance_comm]

theorem editDistance_self (a : List Char) : editDistance a a = 0 := by
  rw [editDistance_eq, distance_self]

end DocAudit.Text
