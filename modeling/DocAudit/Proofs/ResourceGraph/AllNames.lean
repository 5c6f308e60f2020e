import Mathlib.Data.Set.Card
import DocAudit.Proofs.ResourceGraph.Invariant

/-!
# All names visited

What `Visits.ofNames` leaves when base types lead from known names to known names.

* The finished names are the known names, each once, and a base type that cannot reach a name stands
  before it: `pair_sublist_of_not_reaches`.
* The kept cycles are closed walks that meet no name twice (`walk_of_mem_cycles`), and every closed
  walk takes the last step of one of them (`exists_closing_step`).
* If no name has two base types, there are exactly as many kept cycles as cycles: `length_cycles`.
-/

namespace DocAudit.Visits

open List Relation

variable {bases : String → List String} {names : List String}

/-- Base types lead from known names to known names. -/
def Known (bases : String → List String) (names : List String) : Prop :=
  ∀ name base, IsBase bases name base → name ∈ names ∧ base ∈ names

/-- The depth of `ofNames` is enough for a run over all names. -/
lemma run_all (known : Known bases names) :
    Run bases [] start names (ofNames bases names) :=
  run_ofNames fun name _ base isBase => (known name base isBase).2

/-- The invariant holds at the end. -/
lemma invariant_ofNames (known : Known bases names) :
    Invariant bases [] (ofNames bases names) :=
  (run_all known).invariant invariant_start (by simp [Pending])

/-! ## Order -/

/-- No name is finished twice. -/
lemma nodup_finished (known : Known bases names) :
    (ofNames bases names).finished.Nodup := by
  simpa using (invariant_ofNames known).nodup

/-- The finished names are the known ones. -/
lemma mem_finished (known : Known bases names)
    {name : String} : name ∈ (ofNames bases names).finished ↔ name ∈ names := by
  constructor
  · intro done
    have closed : ∀ name ∈ names, bases name ⊆ names :=
      fun name _ base isBase => (known name base isBase).2
    exact (run_all known).finished_subset closed (by simp [start]) (Subset.refl _) done
  · intro mem
    rcases (run_all known).finished_or_closes name mem with done | ⟨latest, isLatest, -⟩
    · exact done
    · simp at isLatest

/-- Around a closed walk, the base type of its last step reaches the name. -/
lemma reaches_of_isClosedWalk {edge : String → String → Prop} {walk : List String}
    (closed : IsClosedWalk edge walk) {name base : String} (ends : [name, base] <:+ walk) :
    ReflTransGen edge base name := by
  obtain ⟨first, middle, rfl, walks⟩ := closed
  obtain ⟨before, split⟩ := ends
  have split : (before ++ [name]) ++ [base] = (first :: middle) ++ [first] := by simpa using split
  obtain ⟨front, last⟩ := List.append_inj' split rfl
  obtain rfl : base = first := by simpa using last
  have inner : (base :: middle).IsChain edge := by
    rw [← List.cons_append] at walks
    exact walks.left_of_append
  refine relationReflTransGen_of_exists_isChain_cons middle inner ?_
  simp [← front]

/-- **Base types first.**  A base type that cannot reach a name stands before it: the two close no
kept cycle, which would lead back. -/
theorem pair_sublist_of_not_reaches
    (known : Known bases names) {name base : String}
    (isBase : IsBase bases name base) (apart : ¬ ReflTransGen (IsBase bases) base name) :
    [base, name] <+ (ofNames bases names).finished := by
  have inv := invariant_ofNames known
  have done := (mem_finished known).2 (known name base isBase).1
  refine (inv.settled name done base isBase).resolve_right ?_
  rintro ⟨walk, kept, ends⟩
  exact apart (reaches_of_isClosedWalk (inv.walks walk kept).1 ends)

/-! ## Cycles -/

/-- In a closed walk the names but the last are those but the first. -/
lemma tail_perm_dropLast {edge : String → String → Prop} {walk : List String}
    (closed : IsClosedWalk edge walk) : walk.tail ~ walk.dropLast := by
  obtain ⟨first, middle, rfl, -⟩ := closed
  rw [← List.cons_append, List.dropLast_concat]
  exact perm_append_singleton first middle

/-- The kept cycles are closed walks that meet no name twice. -/
theorem walk_of_mem_cycles
    (known : Known bases names) {walk : List String}
    (kept : walk ∈ (ofNames bases names).cycles) :
    IsClosedWalk (IsBase bases) walk ∧ walk.tail.Nodup := by
  have inv := invariant_ofNames known
  obtain ⟨closed, inOrder⟩ := inv.walks walk kept
  refine ⟨closed, (tail_perm_dropLast closed).nodup_iff.2 ?_⟩
  exact List.nodup_reverse.1 (inv.nodup.sublist inOrder)

/-- **Every cycle is met.**  Around a closed walk the places of the names cannot fall all the way,
and a step along which they do not fall is one that closes a kept cycle. -/
theorem exists_closing_step
    (known : Known bases names) {walk : List String}
    (closed : IsClosedWalk (IsBase bases) walk) :
    ∃ kept ∈ (ofNames bases names).cycles, ∃ name base,
      [name, base] <:+ kept ∧ [name, base] <:+: walk := by
  have inv := invariant_ofNames known
  obtain ⟨name, base, step, notBefore⟩ :=
    closed.exists_not_lt fun name => (ofNames bases names).finished.idxOf name
  have isBase : IsBase bases name base := by
    obtain ⟨first, middle, rfl, walks⟩ := closed
    exact edge_of_pair_infix walks step
  have done := (mem_finished known).2 (known name base isBase).1
  rcases inv.settled name done base isBase with before | ⟨kept, mem, ends⟩
  · exact absurd (idxOf_lt_of_pair_sublist (nodup_finished known) before) notBefore
  · exact ⟨kept, mem, name, base, ends, step⟩

/-- Two kept cycles around the same names are one: both list them in the order in which they are
left. -/
lemma eq_of_coe_tail_eq
    (known : Known bases names)
    {walk other : List String} (kept : walk ∈ (ofNames bases names).cycles)
    (kept' : other ∈ (ofNames bases names).cycles)
    (same : (↑walk.tail : Cycle String) = ↑other.tail) : walk = other := by
  have inv := invariant_ofNames known
  obtain ⟨closed, inOrder⟩ := inv.walks walk kept
  obtain ⟨closed', inOrder'⟩ := inv.walks other kept'
  have perm : walk.dropLast.reverse ~ other.dropLast.reverse :=
    (reverse_perm _).trans ((tail_perm_dropLast closed).symm.trans
      ((Cycle.coe_eq_coe.1 same).perm.trans
        ((tail_perm_dropLast closed').trans (reverse_perm _).symm)))
  have front : walk.dropLast = other.dropLast :=
    List.reverse_injective ((inv.nodup.perm_iff_eq_of_sublist inOrder inOrder').1 perm)
  obtain ⟨first, middle, rfl, -⟩ := closed
  obtain ⟨first', middle', rfl, -⟩ := closed'
  simp only [← List.cons_append, List.dropLast_concat, List.cons.injEq] at front
  rw [front.1, front.2]

/-- If no name has two base types, every cycle is kept: it shares a name with the kept one whose
last step it takes. -/
lemma exists_coe_tail_eq
    (known : Known bases names)
    (functional : ∀ name base base', IsBase bases name base →
      IsBase bases name base' → base = base')
    {around : Cycle String} (isCycle : around ∈ simpleCycles (IsBase bases)) :
    ∃ walk ∈ (ofNames bases names).cycles, (↑walk.tail : Cycle String) = around := by
  obtain ⟨first, middle, rfl⟩ : ∃ first middle, around = ↑(first :: middle : List String) := by
    induction around using Quotient.inductionOn with
    | h list =>
        cases list with
        | nil => exact absurd rfl isCycle.1
        | cons first middle => exact ⟨first, middle, rfl⟩
  have closed : IsClosedWalk (IsBase bases) (first :: (middle ++ [first])) :=
    ⟨first, middle, rfl, (Cycle.chain_coe_cons _ _ _).1 isCycle.2.2⟩
  obtain ⟨walk, kept, name, base, ends, step⟩ := exists_closing_step known closed
  obtain ⟨closedKept, distinct⟩ := walk_of_mem_cycles known kept
  have onKept : name ∈ walk.tail := by
    rw [(tail_perm_dropLast closedKept).mem_iff]
    obtain ⟨before, rfl⟩ := ends
    simp
  have onCycle : name ∈ first :: middle := by
    have mem : name ∈ first :: (middle ++ [first]) := step.subset (by simp)
    simpa [or_comm] using mem
  exact ⟨walk, kept,
    eq_of_mem_simpleCycles functional (closedKept.mem_simpleCycles distinct) isCycle
    (Cycle.mem_coe_iff.2 onKept) (Cycle.mem_coe_iff.2 onCycle)⟩

/-- **As many kept cycles as cycles,** if no name has two base types: every cycle is kept, and no
two kept ones are the same. -/
theorem length_cycles
    (known : Known bases names)
    (functional : ∀ name base base', IsBase bases name base →
      IsBase bases name base' → base = base')
    (once : ∀ name, (bases name).Nodup) (nodup : names.Nodup) :
    (ofNames bases names).cycles.length = (simpleCycles (IsBase bases)).ncard := by
  classical
  have different : (ofNames bases names).cycles.Nodup :=
    (run_all known).nodup_cycles once invariant_start (by simp [Pending]) nodup (by simp)
      (by simp [start])
  set cycles := (ofNames bases names).cycles
  have all : simpleCycles (IsBase bases)
      = ((cycles.map fun walk => (↑walk.tail : Cycle String)).toFinset : Set (Cycle String)) := by
    ext around
    rw [List.coe_toFinset]
    constructor
    · intro isCycle
      exact List.mem_map.2 (exists_coe_tail_eq known functional isCycle)
    · intro isKept
      obtain ⟨walk, mem, rfl⟩ := List.mem_map.1 isKept
      obtain ⟨closed, distinct⟩ := walk_of_mem_cycles known mem
      exact closed.mem_simpleCycles distinct
  have injective : (cycles.map fun walk => (↑walk.tail : Cycle String)).Nodup :=
    different.map_on fun walk mem other mem' same => eq_of_coe_tail_eq known mem mem' same
  rw [all, Set.ncard_coe_finset, List.toFinset_card_of_nodup injective, List.length_map]

end DocAudit.Visits
