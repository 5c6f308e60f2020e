import Mathlib.Data.List.Destutter
import Mathlib.Data.List.Flatten
import DocAudit.Proofs.ResourceGraph.Definitions

/-!
# The order of definitions

The order of a graph lists the positions of all definitions, name after name.  So what the names
have in order, the definitions have in groups: each group is one part of the order
(`positions_part_order`), and a name that stands before another one has its whole group before that
of the other one (`idxOf_order_lt`).  `order_bases_first` says all of it.

The names can be read off again from the sorted definitions, by writing each run of one name once
(`sortedNames_eq_destutter`).
-/

namespace DocAudit.ResourceGraph

open List Relation Definitions

variable {definitions : List Resource} {name base : String} {position : ℕ}

/-! ## Positions -/

lemma order_resolve : (resolve definitions).value.order
    = (resolve definitions).value.sortedNames.flatMap (positions definitions) := by
  rw [order]
  congr 1
  exact funext fun name => positions_resources

/-- Names stand once and positions belong to one name, so positions stand once. -/
lemma nodup_order : (resolve definitions).value.order.Nodup := by
  rw [order_resolve, List.nodup_flatMap]
  refine ⟨fun name _ => nodup_positions, ?_⟩
  exact nodup_sortedNames.imp fun different => disjoint_positions different

lemma mem_order : position ∈ (resolve definitions).value.order ↔ position < definitions.length := by
  simp only [order_resolve, List.mem_flatMap, mem_positions]
  constructor
  · rintro ⟨name, -, definition, found, -⟩
    exact (List.getElem?_eq_some_iff.1 found).1
  · intro inside
    have found := List.getElem?_eq_getElem inside
    exact ⟨_, mem_sortedNames.2 ⟨_, List.mem_of_getElem? found, rfl⟩, _, found, rfl⟩

/-- Every definition stands once in the order. -/
lemma order_perm : (resolve definitions).value.order ~ List.range definitions.length := by
  refine (List.perm_ext_iff_of_nodup nodup_order List.nodup_range).2 fun position => ?_
  rw [mem_order, List.mem_range]

/-- The definitions of a name stand together, in the order of the pages. -/
lemma positions_part_order (known : name ∈ (resolve definitions).value.sortedNames) :
    positions definitions name <:+: (resolve definitions).value.order := by
  obtain ⟨before, after, split⟩ := List.append_of_mem known
  refine ⟨before.flatMap (positions definitions), after.flatMap (positions definitions), ?_⟩
  rw [order_resolve, split, List.flatMap_append, List.flatMap_cons, List.append_assoc]

/-- A name before another one has all of its definitions before those of the other one. -/
lemma idxOf_order_lt (before : [base, name] <+ (resolve definitions).value.sortedNames)
    {first last : ℕ}
    (isFirst : first ∈ positions definitions base) (isLast : last ∈ positions definitions name) :
    (resolve definitions).value.order.idxOf first
      < (resolve definitions).value.order.idxOf last := by
  refine idxOf_lt_of_pair_sublist nodup_order ?_
  have pair : [first, last] <+ [base, name].flatMap (positions definitions) := by
    simpa using (singleton_sublist.2 isFirst).append (singleton_sublist.2 isLast)
  rw [order_resolve]
  exact pair.trans (before.flatMap _)

/-! ## Definitions -/

/-- Taking all members of a list by their positions gives the list. -/
lemma filterMap_getElem?_range {α : Type} (list : List α) :
    (List.range list.length).filterMap (list[·]?) = list := by
  induction list with
  | nil => rfl
  | cons first rest ih =>
      rw [List.length_cons, List.range_succ_eq_map, List.filterMap_cons, List.filterMap_map]
      simpa using ih

/-- Sorting loses no definition and repeats none. -/
lemma sorted_perm : (resolve definitions).value.sorted ~ (resolve definitions).value.resources := by
  have all : definitions.length = (resolve definitions).value.resources.length := by
    simp [resources_resolve, reconciled]
  have perm : (resolve definitions).value.order ~ List.range definitions.length := order_perm
  rw [all] at perm
  have byPosition := perm.filterMap ((resolve definitions).value.resources[·]?)
  rwa [filterMap_getElem?_range] at byPosition

/-- The resources at the positions of a name are those of the name. -/
lemma filterMap_positions (resources : List Resource) (name : String) :
    (positions resources name).filterMap (resources[·]?) = resources.filter (·.name == name) := by
  have there (position : ℕ) : (if resources[position]?.any (·.name == name)
      then resources[position]? else none)
      = resources[position]?.filter (·.name == name) := by
    cases resources[position]? with
    | none => rfl
    | some resource => simp [Option.filter]
  calc (positions resources name).filterMap (resources[·]?)
      = (List.range resources.length).filterMap fun position =>
        resources[position]?.filter (·.name == name) := by
        rw [positions, filterMap_filter]
        exact filterMap_congr fun position _ => there position
    _ = ((List.range resources.length).filterMap (resources[·]?)).filter (·.name == name) := by
        rw [filter_filterMap]
    _ = resources.filter (·.name == name) := by
        rw [filterMap_getElem?_range]

/-- The sorted definitions are those of each name, name after name. -/
lemma sorted_eq_flatMap :
    (resolve definitions).value.sorted = (resolve definitions).value.sortedNames.flatMap
    fun name => (resolve definitions).value.resources.filter (·.name == name) := by
  rw [sorted, order, filterMap_flatMap]
  exact congrArg (flatMap · _) (funext (filterMap_positions _))

/-! ## Names -/

/-- Repetitions of what was written last are left out. -/
lemma destutter'_replicate_append (count : ℕ) (last : String) (rest : List String) :
    (replicate count last ++ rest).destutter' (· ≠ ·) last = rest.destutter' (· ≠ ·) last := by
  induction count with
  | zero => simp
  | succ count ih =>
      rw [replicate_succ, cons_append, destutter'_cons_neg _ (by simp), ih]

/-- Names that are repeated in runs, written once for each run. -/
lemma destutter'_flatMap_replicate {count : String → ℕ} {last : String} {names : List String}
    (nodup : (last :: names).Nodup) (counted : ∀ name ∈ names, 0 < count name) :
    (names.flatMap fun name => replicate (count name) name).destutter' (· ≠ ·) last
      = last :: names := by
  induction names generalizing last with
  | nil => rfl
  | cons name rest ih =>
      obtain ⟨fresh, nodup⟩ := List.nodup_cons.1 nodup
      obtain ⟨somePositive, someRest⟩ := List.forall_mem_cons.1 counted
      have different : last ≠ name := fun same => fresh (by simp [same])
      obtain ⟨more, same⟩ := Nat.exists_eq_succ_of_ne_zero somePositive.ne'
      rw [List.flatMap_cons, same, replicate_succ, cons_append, destutter'_cons_pos _ different,
        destutter'_replicate_append, ih nodup someRest]

/-- The sorted names are the names of the sorted definitions, each run of one name written once. -/
lemma sortedNames_eq_destutter : (resolve definitions).value.sortedNames
    = ((resolve definitions).value.sorted.map (·.name)).destutter (· ≠ ·) := by
  set graph := (resolve definitions).value with isGraph
  have inRuns : graph.sorted.map (·.name) = graph.sortedNames.flatMap fun name =>
      replicate (graph.resources.filter (·.name == name)).length name := by
    rw [isGraph, sorted_eq_flatMap, List.map_flatMap]
    refine congrArg (flatMap · graph.sortedNames) (funext fun name =>
      List.map_eq_replicate_iff.2 ?_)
    exact fun resource mem => beq_iff_eq.1 (List.mem_filter.1 mem).2
  have counted : ∀ name ∈ graph.sortedNames,
      0 < (graph.resources.filter (·.name == name)).length := by
    intro name known
    obtain ⟨resource, mem, same⟩ := exists_resource_iff.2 (mem_sortedNames.1 known)
    exact List.length_pos_of_mem (List.mem_filter.2 ⟨mem, beq_iff_eq.2 same⟩)
  have nodup : graph.sortedNames.Nodup := nodup_sortedNames
  rw [inRuns]
  cases names : graph.sortedNames with
  | nil => rfl
  | cons first rest =>
      rw [names] at counted nodup
      obtain ⟨firstSome, restSome⟩ := List.forall_mem_cons.1 counted
      obtain ⟨more, same⟩ := Nat.exists_eq_succ_of_ne_zero firstSome.ne'
      rw [List.flatMap_cons, same, replicate_succ, cons_append, destutter_cons',
        destutter'_replicate_append, destutter'_flatMap_replicate nodup restSome]

/-! ## Base types first -/

/-- **Base types come first,** whatever the definitions are.

* Every definition stands once in the order, and sorting keeps definition and name together.
* The definitions of a name stand together, in the order of the pages.
* If a definition of a name has a known base type, and no chain of base types leads from there back
  to the name, then every definition of the base type stands before every definition of the name.
* So the sorted names are the different names, each once; they are what is left of the names of the
  sorted definitions when each run of one name is written once. -/
theorem order_bases_first (definitions : List Resource) :
    let graph := (resolve definitions).value
    (graph.order ~ List.range definitions.length
      ∧ graph.sorted ~ graph.resources
      ∧ graph.resources.map (·.name) = definitions.map (·.name))
    ∧ (∀ name ∈ graph.sortedNames, positions definitions name <:+: graph.order)
    ∧ (∀ name base, HasBase graph.resources name base →
        ¬ ReflTransGen (HasBase graph.resources) base name →
        ∀ first ∈ positions definitions base, ∀ last ∈ positions definitions name,
          graph.order.idxOf first < graph.order.idxOf last)
    ∧ (graph.sortedNames.Nodup
      ∧ (∀ name, name ∈ graph.sortedNames ↔ ∃ definition ∈ definitions, definition.name = name)
      ∧ graph.sortedNames = (graph.sorted.map (·.name)).destutter (· ≠ ·)) := by
  intro graph
  refine ⟨⟨order_perm, sorted_perm, map_name_resources⟩, fun name => positions_part_order, ?_,
    nodup_sortedNames, fun name => mem_sortedNames, sortedNames_eq_destutter⟩
  intro name base hasBase apart first isFirst last isLast
  have edges : HasBase graph.resources = Visits.IsBase (knownBases (reconciled definitions)) :=
    hasBase_eq
  rw [edges] at hasBase apart
  have before := Visits.pair_sublist_of_not_reaches known_names hasBase apart
  rw [← sortedNames_resolve] at before
  exact idxOf_order_lt before isFirst isLast

end DocAudit.ResourceGraph
