import DocAudit.Proofs.ResourceGraph.Visits

/-!
# The invariant of visiting

`Invariant` is about one list: the finished names, and behind them the chain of names that are being
visited, the latest first.  Three steps change the two parts, and each has its lemma: a cycle is
kept (`Invariant.close`), a name enters the chain (`Invariant.enter`), a name leaves it as finished
(`Invariant.leave`).  `Run.invariant` puts them together.

`Run.nodup_cycles` needs one more fact about steps, which is not local: a run takes steps only from
the latest name of the chain and from names that were new (`Run.closes_or`).
-/

namespace DocAudit.Visits

open List

variable {bases : String → List String} {chain todo : List String} {visits after : Visits}

/-- What holds at every moment of visiting. -/
structure Invariant (bases : String → List String) (chain : List String) (visits : Visits) :
    Prop where
  /-- No name is visited twice. -/
  nodup : (visits.finished ++ chain).Nodup
  /-- Every name of the chain was entered as a base type of the next one. -/
  linked : chain.IsChain fun later earlier => IsBase bases earlier later
  /-- A base type of a finished name stands before it, unless the two close a cycle. -/
  settled : ∀ name ∈ visits.finished, ∀ base ∈ bases name,
    [base, name] <+ visits.finished ∨ visits.Closes name base
  /-- The kept cycles are closed walks, and their names stand in the order in which they are
  left. -/
  walks : ∀ walk ∈ visits.cycles,
    IsClosedWalk (IsBase bases) walk ∧ walk.dropLast.reverse <+ visits.finished ++ chain

/-- Nothing is visited, and the invariant holds. -/
lemma invariant_start : Invariant bases [] start where
  nodup := by simp [start]
  linked := isChain_nil
  settled := by simp [start]
  walks := by simp [start]

/-! ## Steps -/

/-- A name of the chain is met again as a base type of the latest name. -/
lemma Invariant.close {name : String} (inv : Invariant bases chain visits) (met : name ∈ chain)
    (last : ∀ latest ∈ chain.head?, IsBase bases latest name) :
    Invariant bases chain ⟨visits.finished, visits.cycles ++ [cycle chain name]⟩ where
  nodup := inv.nodup
  linked := inv.linked
  settled := by
    intro done isDone base isBase
    refine (inv.settled done isDone base isBase).imp_right ?_
    rintro ⟨walk, kept, ends⟩
    exact ⟨walk, by simp [kept], ends⟩
  walks := by
    intro walk kept
    rcases List.mem_append.1 kept with kept | new
    · exact inv.walks walk kept
    · obtain rfl := List.mem_singleton.1 new
      refine ⟨isClosedWalk_cycle inv.linked met last, ?_⟩
      obtain ⟨inner, isPrefix, walk⟩ := exists_cycle_eq met
      have turned : (cycle chain name).dropLast.reverse = inner ++ [name] := by
        rw [walk, ← List.cons_append, List.dropLast_concat]
        simp
      rw [turned]
      exact isPrefix.sublist.trans (sublist_append_right _ _)

/-- A new name is entered as a base type of the latest name. -/
lemma Invariant.enter {name : String} (inv : Invariant bases chain visits)
    (new : name ∉ visits.finished) (fresh : name ∉ chain)
    (last : ∀ latest ∈ chain.head?, IsBase bases latest name) :
    Invariant bases (name :: chain) visits where
  nodup := by
    have split := List.nodup_append.1 inv.nodup
    refine List.nodup_append.2 ⟨split.1, List.nodup_cons.2 ⟨fresh, split.2.1⟩, ?_⟩
    intro done isDone other mem
    rcases List.mem_cons.1 mem with rfl | mem
    · rintro rfl; exact new isDone
    · exact split.2.2 done isDone other mem
  linked := isChain_cons.2 ⟨last, inv.linked⟩
  settled := inv.settled
  walks := by
    intro walk kept
    refine ⟨(inv.walks walk kept).1, (inv.walks walk kept).2.trans ?_⟩
    exact (Sublist.refl _).append (sublist_cons_self _ _)

/-- The latest name is finished when each of its base types is finished or closes a cycle. -/
lemma Invariant.leave {name : String} (inv : Invariant bases (name :: chain) visits)
    (visited : ∀ base ∈ bases name, base ∈ visits.finished ∨ visits.Closes name base) :
    Invariant bases chain ⟨visits.finished ++ [name], visits.cycles⟩ where
  nodup := by simpa using inv.nodup
  linked := inv.linked.tail
  settled := by
    intro done isDone base isBase
    rcases List.mem_append.1 isDone with isDone | isLast
    · refine (inv.settled done isDone base isBase).imp_left fun before => ?_
      exact before.trans (sublist_append_left _ _)
    · obtain rfl := List.mem_singleton.1 isLast
      refine (visited base isBase).imp_left fun before => ?_
      exact (singleton_sublist.2 before).append (Sublist.refl [done])
  walks := by
    intro walk kept
    simpa using inv.walks walk kept

/-! ## Runs -/

/-- What is to be visited are base types of the latest name, if there is one. -/
def Pending (bases : String → List String) (chain todo : List String) : Prop :=
  ∀ latest ∈ chain.head?, todo ⊆ bases latest

lemma Pending.head {name : String} {rest : List String} (h : Pending bases chain (name :: rest)) :
    ∀ latest ∈ chain.head?, IsBase bases latest name :=
  fun latest isLatest => (List.cons_subset.1 (h latest isLatest)).1

lemma Pending.tail {name : String} {rest : List String} (h : Pending bases chain (name :: rest)) :
    Pending bases chain rest :=
  fun latest isLatest => (List.cons_subset.1 (h latest isLatest)).2

/-- When a name is entered, all its base types are to be visited. -/
lemma pending_cons (name : String) : Pending bases (name :: chain) (bases name) := by
  rintro latest ⟨⟩
  exact Subset.refl _

/-- What was to be visited is finished, or it was met again as a base type of the latest name. -/
lemma Run.finished_or_closes (run : Run bases chain visits todo after) :
    ∀ name ∈ todo, name ∈ after.finished ∨ ∃ latest ∈ chain.head?, after.Closes latest name := by
  induction run with
  | nil => simp
  | finished done next ih =>
      refine List.forall_mem_cons.2 ⟨.inl ?_, ih⟩
      exact next.finished_grows.subset done
  | closing new met next ih =>
      refine List.forall_mem_cons.2 ⟨.inr ?_, ih⟩
      obtain ⟨latest, head⟩ := exists_head?_of_mem met
      refine ⟨latest, head, Closes.mono ⟨_, ?_, pair_suffix_cycle head met⟩ next.cycles_grow⟩
      simp
  | entering new fresh inner next _ ihNext =>
      refine List.forall_mem_cons.2 ⟨.inl ?_, ihNext⟩
      exact next.finished_grows.subset (by simp)

/-- A name whose base types have been visited may leave the chain. -/
lemma Run.leave {name : String} (inner : Run bases (name :: chain) visits (bases name) after)
    (inv : Invariant bases (name :: chain) after) :
    Invariant bases chain ⟨after.finished ++ [name], after.cycles⟩ := by
  refine inv.leave fun base isBase => ?_
  rcases inner.finished_or_closes base isBase with done | ⟨latest, ⟨⟩, closes⟩
  · exact .inl done
  · exact .inr closes

/-- **Every run keeps the invariant,** if what it visits are base types of the latest name. -/
theorem Run.invariant (run : Run bases chain visits todo after) (inv : Invariant bases chain visits)
    (pending : Pending bases chain todo) : Invariant bases chain after := by
  induction run with
  | nil => exact inv
  | finished _ _ ih => exact ih inv pending.tail
  | closing _ met _ ih => exact ih (inv.close met pending.head) pending.tail
  | entering new fresh inner _ ihInner ihNext =>
      have visited := ihInner (inv.enter new fresh pending.head) (pending_cons _)
      exact ihNext (inner.leave visited) pending.tail

/-! ## No cycle is kept twice -/

/-- A step that closes a cycle was kept before, or it goes from the latest name to one that was to
be visited, or it starts at a name that was new. -/
lemma Run.closes_or (run : Run bases chain visits todo after) {name base : String}
    (closes : after.Closes name base) :
    visits.Closes name base ∨ (name ∈ chain.head? ∧ base ∈ todo) ∨
      name ∉ visits.finished ++ chain := by
  induction run with
  | nil => exact .inl closes
  | finished _ _ ih =>
      refine (ih closes).imp_right (Or.imp_left ?_)
      rintro ⟨head, mem⟩
      exact ⟨head, List.mem_cons_of_mem _ mem⟩
  | closing _ met _ ih =>
      rcases ih closes with closes | ⟨head, mem⟩ | new
      · rcases closes_append_cycle met closes with closes | ⟨head, rfl⟩
        · exact .inl closes
        · exact .inr (.inl ⟨head, by simp⟩)
      · exact .inr (.inl ⟨head, List.mem_cons_of_mem _ mem⟩)
      · exact .inr (.inr new)
  | entering new fresh inner _ ihInner ihNext =>
      rcases ihNext closes with closes | ⟨head, mem⟩ | isNew
      · rcases ihInner closes with closes | ⟨⟨⟩, -⟩ | isNew
        · exact .inl closes
        · exact .inr (.inr (by simp [new, fresh]))
        · refine .inr (.inr fun old => isNew ?_)
          rcases List.mem_append.1 old with old | old
          · simp [old]
          · simp [old]
      · exact .inr (.inl ⟨head, List.mem_cons_of_mem _ mem⟩)
      · refine .inr (.inr fun old => isNew ?_)
        rcases List.mem_append.1 old with old | old
        · simp [inner.finished_grows.subset old]
        · simp [old]

/-- What closes a cycle is visited. -/
lemma Invariant.mem_of_closes (inv : Invariant bases chain visits) {name base : String}
    (closes : visits.Closes name base) : name ∈ visits.finished ++ chain := by
  obtain ⟨walk, kept, ends⟩ := closes
  have inside : name ∈ walk.dropLast := by
    obtain ⟨before, rfl⟩ := ends
    simp
  exact (inv.walks walk kept).2.subset (List.mem_reverse.2 inside)

/-- **No cycle is kept twice,** since base types are listed once and a name is entered once: no step
that is still to be taken has closed a cycle. -/
theorem Run.nodup_cycles (once : ∀ name, (bases name).Nodup)
    (run : Run bases chain visits todo after) (inv : Invariant bases chain visits)
    (pending : Pending bases chain todo) (nodup : todo.Nodup)
    (ahead : ∀ latest ∈ chain.head?, ∀ base ∈ todo, ¬ visits.Closes latest base)
    (before : visits.cycles.Nodup) : after.cycles.Nodup := by
  induction run with
  | nil => exact before
  | finished _ _ ih =>
      refine ih inv pending.tail (List.nodup_cons.1 nodup).2 ?_ before
      exact fun latest head base mem => ahead latest head base (List.mem_cons_of_mem _ mem)
  | @closing chain visits name rest after _ met _ ih =>
      obtain ⟨notAgain, nodup⟩ := List.nodup_cons.1 nodup
      obtain ⟨latest, head⟩ := exists_head?_of_mem met
      have isNew : cycle chain name ∉ visits.cycles := fun kept =>
        ahead latest head name (by simp) ⟨_, kept, pair_suffix_cycle head met⟩
      have stillOnce : (visits.cycles ++ [cycle chain name]).Nodup :=
        before.append (List.nodup_singleton _) (by simpa using isNew)
      refine ih (inv.close met pending.head) pending.tail nodup ?_ stillOnce
      intro latest head base mem closes
      rcases closes_append_cycle met closes with closes | ⟨-, rfl⟩
      · exact ahead latest head base (List.mem_cons_of_mem _ mem) closes
      · exact notAgain mem
  | @entering chain visits name rest inside after new fresh inner _ ihInner ihNext =>
      have first := inv.enter new fresh pending.head
      have nodupInside : inside.cycles.Nodup := by
        refine ihInner first (pending_cons name) (once name) ?_ before
        rintro latest ⟨⟩ base - closes
        exact (List.mem_append.1 (inv.mem_of_closes closes)).elim new fresh
      have left := inner.leave (inner.invariant first (pending_cons name))
      refine ihNext left pending.tail (List.nodup_cons.1 nodup).2 ?_ nodupInside
      intro latest head base mem closes
      have isOpen : latest ∈ chain := List.mem_of_head? head
      rcases inner.closes_or closes with closes | ⟨⟨⟩, -⟩ | isNew
      · exact ahead latest head base (List.mem_cons_of_mem _ mem) closes
      · exact fresh isOpen
      · exact isNew (by simp [isOpen])

end DocAudit.Visits
