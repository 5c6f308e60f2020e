import Mathlib.Data.List.Chain
import Mathlib.Data.List.Cycle

/-!
# Closed walks

A walk in a relation is a list each of whose members is related to the next one.  A walk that ends
where it starts goes around a cycle; where it starts does not matter for the cycle, so cycles are
lists up to rotation (`Cycle`).

**Precedence.**  `idxOf_lt_of_pair_sublist` turns "`a` stands before `b`" into an inequality of
positions, which is what an argument around a closed walk needs.

**Functional relations.**  If nothing is related to two different things, then two cycles that share
a member are the same cycle: `eq_of_mem_simpleCycles`.
-/

namespace DocAudit

open List

variable {α : Type}

/-- A walk that ends where it starts. -/
def IsClosedWalk (edge : α → α → Prop) (walk : List α) : Prop :=
  ∃ start middle, walk = start :: (middle ++ [start]) ∧ walk.IsChain edge

/-- The cycles of a relation that meet no member twice. -/
def simpleCycles (edge : α → α → Prop) : Set (Cycle α) :=
  {cycle | cycle ≠ Cycle.nil ∧ cycle.Nodup ∧ cycle.Chain edge}

/-! ## Precedence -/

/-- In a list without repetitions, what stands before has the smaller position. -/
lemma idxOf_lt_of_pair_sublist [DecidableEq α] {list : List α} {a b : α} (nodup : list.Nodup)
    (h : [a, b] <+ list) : list.idxOf a < list.idxOf b := by
  induction list with
  | nil => simp at h
  | cons first rest ih =>
      obtain ⟨fresh, nodup⟩ := List.nodup_cons.1 nodup
      cases h with
      | cons _ h =>
          have hb : b ≠ first := by rintro rfl; exact fresh (h.subset (by simp))
          have ha : a ≠ first := by rintro rfl; exact fresh (h.subset (by simp))
          rw [List.idxOf_cons_ne _ ha.symm, List.idxOf_cons_ne _ hb.symm]
          exact Nat.succ_lt_succ (ih nodup h)
      | cons_cons _ h =>
          have hb : b ≠ a := by rintro rfl; exact fresh (h.subset (by simp))
          rw [List.idxOf_cons_self, List.idxOf_cons_ne _ hb.symm]
          exact Nat.succ_pos _

/-- No measure decreases all the way around a closed walk. -/
lemma IsClosedWalk.exists_not_lt {edge : α → α → Prop} {walk : List α}
    (closed : IsClosedWalk edge walk)
    (measure : α → ℕ) : ∃ a b, [a, b] <:+: walk ∧ ¬ measure b < measure a := by
  obtain ⟨start, middle, rfl, -⟩ := closed
  by_contra falls
  push Not at falls
  have falling : (start :: (middle ++ [start])).IsChain (fun a b => measure b < measure a) :=
    (isChain_isInfix _).imp falls
  have : Trans (fun a b => measure b < measure a) (fun a b => measure b < measure a)
      (fun a b => measure b < measure a) := ⟨fun h₁ h₂ => Nat.lt_trans h₂ h₁⟩
  exact Nat.lt_irrefl _ (falling.rel_cons (by simp : start ∈ middle ++ [start]))

/-- The members next to each other in a walk are related. -/
lemma edge_of_pair_infix {edge : α → α → Prop} {walk : List α} {a b : α} (walks : walk.IsChain edge)
    (h : [a, b] <:+: walk) : edge a b := by
  have step : [a, b].IsChain edge := IsChain.infix walks h
  exact isChain_pair.1 step

/-! ## Cycles -/

/-- A cycle may be read from any of its members on. -/
lemma exists_eq_cons_of_mem {cycle : Cycle α} {a : α} (h : a ∈ cycle) :
    ∃ rest : List α, cycle = ↑(a :: rest) := by
  induction cycle using Quotient.inductionOn with
  | h list =>
      obtain ⟨before, after, rfl⟩ := List.append_of_mem (Cycle.mem_coe_iff.1 h)
      exact ⟨after ++ before, Cycle.coe_eq_coe.2 (@isRotated_append _ before (a :: after))⟩

/-- Two walks from one member along a functional relation agree as long as both go on. -/
lemma prefix_or_prefix_of_functional {edge : α → α → Prop}
    (functional : ∀ a b c, edge a b → edge a c → b = c) {a : α} {list other : List α}
    (h : (a :: list).IsChain edge) (h' : (a :: other).IsChain edge) :
    list <+: other ∨ other <+: list := by
  induction list generalizing a other with
  | nil => exact .inl nil_prefix
  | cons b rest ih =>
      cases other with
      | nil => exact .inr nil_prefix
      | cons c rest' =>
          rw [isChain_cons_cons] at h h'
          obtain rfl := functional a b c h.1 h'.1
          exact (ih h.2 h'.2).imp (prefix_cons_inj b).2 (prefix_cons_inj b).2

/-- A closed walk along a functional relation that comes back to its start only at its end is the
only one from there. -/
lemma prefix_of_closed {a : α} {list other : List α} (fresh : a ∉ other)
    (h : list ++ [a] <+: other ++ [a]) : list = other := by
  rcases prefix_concat_iff.1 h with h | h
  · exact List.append_cancel_right h
  · exact absurd (h.subset (by simp)) fresh

/-- **Cycles of a functional relation are disjoint.**  Both are read from the shared member on, and
then neither can leave the other or close earlier. -/
lemma eq_of_mem_simpleCycles {edge : α → α → Prop}
    (functional : ∀ a b c, edge a b → edge a c → b = c) {cycle other : Cycle α}
    (h : cycle ∈ simpleCycles edge) (h' : other ∈ simpleCycles edge) {a : α}
    (mem : a ∈ cycle) (mem' : a ∈ other) : cycle = other := by
  obtain ⟨list, rfl⟩ := exists_eq_cons_of_mem mem
  obtain ⟨list', rfl⟩ := exists_eq_cons_of_mem mem'
  obtain ⟨-, nodup, chain⟩ := h
  obtain ⟨-, nodup', chain'⟩ := h'
  rw [Cycle.nodup_coe_iff, List.nodup_cons] at nodup nodup'
  rw [Cycle.chain_coe_cons] at chain chain'
  rcases prefix_or_prefix_of_functional functional chain chain' with h | h
  · rw [prefix_of_closed nodup'.1 h]
  · rw [prefix_of_closed nodup.1 h]

/-- The cycle that a closed walk goes around. -/
lemma IsClosedWalk.mem_simpleCycles {edge : α → α → Prop} {walk : List α}
    (closed : IsClosedWalk edge walk) (nodup : walk.tail.Nodup) :
    (↑walk.tail : Cycle α) ∈ simpleCycles edge := by
  obtain ⟨start, middle, rfl, walks⟩ := closed
  have rotated : (↑(middle ++ [start]) : Cycle α) = ↑(start :: middle) :=
    Cycle.coe_eq_coe.2 (@isRotated_append _ middle [start])
  refine ⟨by simp [Cycle.coe_eq_nil], by simpa using nodup, ?_⟩
  rw [List.tail_cons, rotated, Cycle.chain_coe_cons]
  exact walks

end DocAudit
