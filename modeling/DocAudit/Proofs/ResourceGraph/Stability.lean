import DocAudit.Proofs.ResourceGraph.Agreement
import DocAudit.Proofs.ResourceGraph.BasesFirst

/-!
# Definitions that are in order

Sorting changes nothing where nothing is to be done: if the definitions of each name stand together
and base types come first (`IsOrdered`), the order is that of the definitions
(`order_of_isOrdered`).  Visiting then finds every base type of a name finished when it comes to the
name, so it finishes the names as they come (`Visits.ofNames_of_pairwise`).

What sorting makes is in order itself (`isOrdered_sorted`): along the sorted definitions the places
of the names do not fall, and a base type has a lower place than the names that have it.  The
definitions of a name stay in their order (`filter_sorted`), and have agreed already.  So sorting
again changes nothing (`sorted_stable_idempotent`).
-/

namespace DocAudit

open List Definitions

/-! ## Visiting names in order -/

namespace Visits

variable {bases : String → List String} {chain names : List String} {visits : Visits}
  {name : String}

lemma visit_of_finished (depth : ℕ) (done : name ∈ visits.finished) :
    visit bases depth chain visits name = visits := by
  cases depth with
  | zero => rfl
  | succ depth => simp [visit, done]

lemma foldl_visit_of_finished (depth : ℕ) {todo : List String} (done : todo ⊆ visits.finished) :
    todo.foldl (visit bases depth chain) visits = visits := by
  induction todo with
  | nil => rfl
  | cons name rest ih =>
      obtain ⟨first, others⟩ := cons_subset.1 done
      rw [foldl_cons, visit_of_finished depth first, ih others]

/-- A name whose base types are finished is finished next. -/
lemma visit_of_bases_finished (depth : ℕ) (new : name ∉ visits.finished)
    (done : bases name ⊆ visits.finished) :
    visit bases (depth + 1) [] visits name = ⟨visits.finished ++ [name], visits.cycles⟩ := by
  simp [visit, new, foldl_visit_of_finished depth done]

/-- If no name stands before one of its base types, those stand before it. -/
lemma mem_of_pairwise_append {before after : List String} {base : String}
    (ordered : (before ++ name :: after).Pairwise fun earlier later => ¬ IsBase bases earlier later)
    (mem : base ∈ before ++ name :: after) (different : base ≠ name)
    (isBase : IsBase bases name base) :
    base ∈ before := by
  refine (mem_append.1 mem).resolve_right fun behind => ?_
  have later := (mem_cons.1 behind).resolve_left different
  exact (pairwise_cons.1 (pairwise_append.1 ordered).2.1).1 base later isBase

/-- **Names in order are finished in this order.**  The induction is on the names that are left:
when visiting comes to a name, the names before it are finished, and its base types are among
them. -/
theorem ofNames_of_pairwise (known : Known bases names) (nodup : names.Nodup)
    (irrefl : ∀ name, ¬ IsBase bases name name)
    (ordered : names.Pairwise fun earlier later => ¬ IsBase bases earlier later) :
    ofNames bases names = ⟨names, []⟩ := by
  have fromHere : ∀ rest before : List String, names = before ++ rest →
      rest.foldl (visit bases (names.length + 1) []) ⟨before, []⟩ = ⟨names, []⟩ := by
    intro rest
    induction rest with
    | nil =>
        rintro before rfl
        rw [append_nil, foldl_nil]
    | cons name rest ih =>
        intro before split
        have new : name ∉ before := by
          rw [split] at nodup
          exact fun old => disjoint_of_nodup_append nodup old mem_cons_self
        have done : bases name ⊆ before := by
          intro base isBase
          refine mem_of_pairwise_append (split ▸ ordered)
            (split ▸ (known name base isBase).2) ?_ isBase
          rintro rfl
          exact irrefl base isBase
        rw [foldl_cons, visit_of_bases_finished _ new done]
        exact ih (before ++ [name]) (by rw [split, append_assoc, singleton_append])
  exact fromHere names [] rfl

end Visits

namespace ResourceGraph

variable {definitions : List Resource} {definition resource : Resource} {name base : String}

/-! ## Definitions in order -/

/-- The definitions of each name stand together, and base types come first. -/
structure IsOrdered (definitions : List Resource) : Prop where
  /-- Between two definitions of a name stand only definitions of the name. -/
  together : ∀ (first middle last : ℕ) (name : String), first ≤ middle → middle ≤ last →
    (definitions.map (·.name))[first]? = some name → (definitions.map (·.name))[last]? = some name →
    ∀ other, (definitions.map (·.name))[middle]? = some other → other = name
  /-- No definition stands before one of a base type of its name. -/
  basesFirst : definitions.Pairwise fun earlier later =>
    ¬ HasBase definitions earlier.name later.name

/-- The names stand in the order of the definitions. -/
lemma names_sublist (definitions : List Resource) :
    names definitions <+ definitions.map (·.name) := by
  have grown : ∀ known : List String, ∃ new, new <+ definitions.map (·.name)
      ∧ definitions.foldl (fun names resource =>
          if names.contains resource.name then names else names ++ [resource.name]) known
            = known ++ new := by
    induction definitions with
    | nil => exact fun known => ⟨[], Sublist.refl _, (append_nil known).symm⟩
    | cons first rest ih =>
        intro known
        rw [foldl_cons]
        by_cases old : first.name ∈ known
        · obtain ⟨new, isPart, all⟩ := ih known
          refine ⟨new, isPart.cons _, ?_⟩
          rw [if_pos (by simpa using old), all]
        · obtain ⟨new, isPart, all⟩ := ih (known ++ [first.name])
          refine ⟨first.name :: new, isPart.cons_cons _, ?_⟩
          rw [if_neg (by simpa using old), all, append_assoc, singleton_append]
  obtain ⟨new, isPart, all⟩ := grown []
  rw [names, all]
  exact isPart

/-- Without cycles no name has itself as a base type. -/
lemma not_hasBase_self (acyclic : circularWalks definitions = []) :
    ¬ HasBase definitions name name := by
  intro hasBase
  rw [← hasBase_reconciled, ← hasBase_resources] at hasBase
  have twice := pair_sublist_of_circularWalks_eq_nil acyclic hasBase
  exact Nat.lt_irrefl _ (idxOf_lt_of_pair_sublist nodup_sortedNames twice)

/-- If base types come first, the sorted names are the names as they come. -/
lemma sortedNames_of_isOrdered (acyclic : circularWalks definitions = [])
    (h : IsOrdered definitions) :
    (resolve definitions).value.sortedNames = names definitions := by
  have isBase (name base : String) :
      Visits.IsBase (knownBases (reconciled definitions)) name base ↔
        HasBase definitions name base :=
    isBase_knownBases.trans hasBase_reconciled
  have sameNames : names (reconciled definitions) = names definitions := names_map name_agreed
  have ordered : (names definitions).Pairwise fun earlier later =>
      ¬ HasBase definitions earlier later :=
    (pairwise_map.2 h.basesFirst).sublist (names_sublist definitions)
  have known : Visits.Known (knownBases (reconciled definitions)) (names definitions) :=
    sameNames ▸ known_names
  rw [sortedNames_resolve, sameNames, Visits.ofNames_of_pairwise known nodup_names]
  · exact fun name => (isBase name name).not.2 (not_hasBase_self acyclic)
  · exact ordered.imp fun apart => (isBase _ _).not.2 apart

/-! ## Positions in order -/

lemma name_of_mem_positions {position : ℕ} (mem : position ∈ positions definitions name) :
    (definitions.map (·.name))[position]? = some name := by
  obtain ⟨definition, found, rfl⟩ := mem_positions.1 mem
  rw [getElem?_map, found, Option.map_some]

/-- Of two names whose definitions stand together, the one that comes first has all of its
definitions first. -/
lemma lt_of_together (h : IsOrdered definitions) {first second : ℕ} {other : String}
    (before : first < second) (isFirst : (definitions.map (·.name))[first]? = some name)
    (isSecond : (definitions.map (·.name))[second]? = some other) (different : name ≠ other)
    {position position' : ℕ}
    (mem : position ∈ positions definitions name) (mem' : position' ∈ positions definitions other) :
    position < position' := by
  have named := name_of_mem_positions mem
  have named' := name_of_mem_positions mem'
  by_contra notBefore
  have behind : position' ≤ position := Nat.le_of_not_lt notBefore
  rcases Nat.le_total first position' with inside | outside
  · exact different (h.together first position' position name inside behind isFirst named
      other named').symm
  · exact different (h.together position' first second other outside (Nat.le_of_lt before) named'
      isSecond name isFirst)

lemma pairwise_names (h : IsOrdered definitions) : (names definitions).Pairwise fun name other =>
    ∀ position ∈ positions definitions name, ∀ position' ∈ positions definitions other,
      position < position' := by
  have apart : (definitions.map (·.name)).Pairwise fun name other => name ≠ other →
      ∀ position ∈ positions definitions name, ∀ position' ∈ positions definitions other,
        position < position' := by
    rw [pairwise_iff_getElem]
    intro first second isIn isIn' before different position mem position' mem'
    exact lt_of_together h before (getElem?_eq_getElem isIn) (getElem?_eq_getElem isIn')
      different mem mem'
  exact (apart.sublist (names_sublist definitions)).imp₂
    (fun _ _ first different => first different) nodup_names

/-- **Definitions that are in order stay where they are.** -/
lemma order_of_isOrdered (acyclic : circularWalks definitions = []) (h : IsOrdered definitions) :
    (resolve definitions).value.order = List.range definitions.length := by
  have rising : (resolve definitions).value.order.Pairwise (· < ·) := by
    rw [order_resolve, sortedNames_of_isOrdered acyclic h, pairwise_flatMap]
    exact ⟨fun name _ => pairwise_lt_range.filter _, pairwise_names h⟩
  refine rising.eq_of_mem_iff pairwise_lt_range fun {position} => ?_
  rw [mem_order, mem_range]

lemma sorted_of_isOrdered (acyclic : circularWalks definitions = []) (h : IsOrdered definitions) :
    (resolve definitions).value.sorted = (resolve definitions).value.resources := by
  have all : definitions.length = (resolve definitions).value.resources.length := by
    rw [resources_eq_map_placed, length_map]
  rw [sorted, order_of_isOrdered acyclic h, all, filterMap_getElem?_range]

/-! ## Sorted definitions -/

/-- If only one of several different names has a part, all the parts together are that one. -/
lemma flatMap_eq_of_nodup {α : Type} {part : String → List α} {names : List String}
    (nodup : names.Nodup)
    (known : name ∈ names) (elsewhere : ∀ other, other ≠ name → part other = []) :
    names.flatMap part = part name := by
  obtain ⟨before, after, split⟩ := append_of_mem known
  rw [split, nodup_middle, nodup_cons, mem_append, not_or] at nodup
  have apart {others : List String} (absent : name ∉ others) : others.flatMap part = [] :=
    flatMap_eq_nil_iff.2 fun other mem => elsewhere other (ne_of_mem_of_not_mem mem absent)
  rw [split, flatMap_append, flatMap_cons, apart nodup.1.1, apart nodup.1.2, nil_append, append_nil]

/-- **The definitions of a name stay in their order.** -/
lemma filter_sorted (definitions : List Resource) (name : String) :
    (resolve definitions).value.sorted.filter (·.name == name)
      = (resolve definitions).value.resources.filter (·.name == name) := by
  by_cases known : name ∈ (resolve definitions).value.sortedNames
  · rw [sorted_eq_flatMap, filter_flatMap, flatMap_eq_of_nodup nodup_sortedNames known,
      filter_filter]
    · simp only [Bool.and_self]
    · intro other different
      rw [filter_filter, filter_eq_nil_iff]
      intro resource _ both
      obtain ⟨isName, isOther⟩ : resource.name = name ∧ resource.name = other := by simpa using both
      exact different (isOther.symm.trans isName)
  · have undeclared : (resolve definitions).value.resources.filter (·.name == name) = [] := by
      rw [filter_eq_nil_iff]
      intro resource mem isName
      rw [mem_sortedNames, ← exists_resource_iff] at known
      exact known ⟨resource, mem, beq_iff_eq.1 isName⟩
    rw [undeclared, ← perm_nil, ← undeclared]
    exact sorted_perm.filter _

/-- Along the sorted definitions the places of the names do not fall. -/
lemma pairwise_sorted_le : (resolve definitions).value.sorted.Pairwise fun earlier later =>
    (resolve definitions).value.sortedNames.idxOf earlier.name
      ≤ (resolve definitions).value.sortedNames.idxOf later.name := by
  have named {resource : Resource} {name : String}
      (mem : resource ∈ (resolve definitions).value.resources.filter (·.name == name)) :
      resource.name = name :=
    beq_iff_eq.1 (mem_filter.1 mem).2
  rw [sorted_eq_flatMap, pairwise_flatMap]
  constructor
  · intro name _
    refine pairwise_of_forall_mem_list fun earlier mem later mem' => ?_
    rw [named mem, named mem']
  · rw [pairwise_iff_forall_sublist]
    intro name other before earlier mem later mem'
    rw [named mem, named mem']
    exact Nat.le_of_lt (idxOf_lt_of_pair_sublist nodup_sortedNames before)

lemma idxOf_le_of_le {first last : ℕ} {other : String} (before : first ≤ last)
    (isFirst : ((resolve definitions).value.sorted.map (·.name))[first]? = some name)
    (isLast : ((resolve definitions).value.sorted.map (·.name))[last]? = some other) :
    (resolve definitions).value.sortedNames.idxOf name
      ≤ (resolve definitions).value.sortedNames.idxOf other := by
  rcases Nat.eq_or_lt_of_le before with rfl | before
  · rw [isFirst] at isLast
    rw [Option.some.inj isLast]
  · have rising : ((resolve definitions).value.sorted.map (·.name)).Pairwise fun earlier later =>
        (resolve definitions).value.sortedNames.idxOf earlier
          ≤ (resolve definitions).value.sortedNames.idxOf later :=
      pairwise_map.2 pairwise_sorted_le
    obtain ⟨isIn, rfl⟩ := List.getElem?_eq_some_iff.1 isFirst
    obtain ⟨isIn', rfl⟩ := List.getElem?_eq_some_iff.1 isLast
    exact pairwise_iff_getElem.1 rising first last isIn isIn' before

/-- The sorted definitions have the base types of the definitions. -/
lemma hasBase_sorted :
    HasBase (resolve definitions).value.sorted name base ↔ HasBase definitions name base := by
  simp only [HasBase, sorted_perm.mem_iff]
  exact hasBase_resources.trans hasBase_reconciled

/-- **Sorting puts definitions in order.**  The base type of a name has a lower place than the name,
so it does not stand behind it. -/
lemma isOrdered_sorted (acyclic : circularWalks definitions = []) :
    IsOrdered (resolve definitions).value.sorted where
  together := by
    intro first middle last name before behind isFirst isLast other isMiddle
    have up := idxOf_le_of_le before isFirst isMiddle
    have down := idxOf_le_of_le behind isMiddle isLast
    have known : other ∈ (resolve definitions).value.sortedNames := by
      obtain ⟨resource, mem, rfl⟩ := mem_map.1 (mem_of_getElem? isMiddle)
      exact mem_sortedNames.2 (exists_resource_iff.1 ⟨resource, sorted_perm.mem_iff.1 mem, rfl⟩)
    exact (idxOf_inj known).1 (Nat.le_antisymm down up)
  basesFirst := by
    refine pairwise_sorted_le.imp fun {earlier later} rises hasBase => ?_
    rw [hasBase_sorted, ← hasBase_reconciled, ← hasBase_resources] at hasBase
    have before := pair_sublist_of_circularWalks_eq_nil acyclic hasBase
    exact Nat.not_le_of_lt (idxOf_lt_of_pair_sublist nodup_sortedNames before) rises

/-! ## Sorting again -/

/-- A resource without the position of its base type, which is one in a list of definitions. -/
def unlinked (resource : Resource) : Resource :=
  { resource with base := none }

lemma baseTypes_sorted (definitions : List Resource) (name : String) :
    baseTypes (resolve definitions).value.sorted name = baseTypes definitions name := by
  refine (Text.pairwise_sorted _).eq_of_mem_iff (Text.pairwise_sorted _) fun {base} => ?_
  show base ∈ baseTypes (resolve definitions).value.sorted name ↔ base ∈ baseTypes definitions name
  rw [← baseTypes_reconciled definitions, mem_baseTypes, mem_baseTypes]
  simp [sorted_perm.mem_iff, resources_resolve, name_linked, baseType_linked]

lemma reconciled_sorted (definitions : List Resource) :
    reconciled (resolve definitions).value.sorted = (resolve definitions).value.sorted := by
  have agree : ∀ resource ∈ (resolve definitions).value.sorted,
      agreed (resolve definitions).value.sorted resource = resource := by
    intro resource mem
    rw [sorted_perm.mem_iff, resources_eq_map_placed] at mem
    obtain ⟨definition, -, rfl⟩ := mem_map.1 mem
    exact agreed_placed (baseTypes_sorted definitions definition.name)
  rw [reconciled, map_congr_left agree, map_id']

lemma resources_sorted (definitions : List Resource) :
    (resolve (resolve definitions).value.sorted).value.resources
    = (resolve definitions).value.sorted.map (linked (resolve definitions).value.sorted) := by
  rw [resources_resolve, reconciled_sorted]

/-- Sorting makes no cycles. -/
lemma circularWalks_sorted (acyclic : circularWalks definitions = []) :
    circularWalks (resolve definitions).value.sorted = [] := by
  have same : HasBase (resolve (resolve definitions).value.sorted).value.resources
      = HasBase (resolve definitions).value.resources := by
    funext name base
    rw [eq_iff_iff, hasBase_resources, hasBase_resources, hasBase_reconciled, hasBase_reconciled,
      hasBase_sorted]
  rw [circularWalks_eq_nil_iff] at acyclic ⊢
  rwa [same]

/-- The base type of a resource is found as the first resource of its name. -/
lemma baseOf?_eq_find? (mem : resource ∈ (resolve definitions).value.resources) :
    (resolve definitions).value.baseOf? resource = resource.baseType.bind fun base =>
      (resolve definitions).value.resources.find? (·.name == base) := by
  rw [baseOf?, base_resolve mem, Option.bind_assoc]
  simp only [find?_eq_bind_findIdx?_getElem?]

/-- The first definition of a name stays the first one, so base types are found as before. -/
lemma baseOf?_sorted (mem : resource ∈ (resolve definitions).value.sorted) :
    ((resolve (resolve definitions).value.sorted).value.baseOf?
        (linked (resolve definitions).value.sorted resource)).map unlinked
      = ((resolve definitions).value.baseOf? resource).map unlinked := by
  have again : linked (resolve definitions).value.sorted resource
      ∈ (resolve (resolve definitions).value.sorted).value.resources := by
    rw [resources_sorted]
    exact mem_map_of_mem mem
  rw [baseOf?_eq_find? again, baseOf?_eq_find? (sorted_perm.mem_iff.1 mem), baseType_linked]
  cases resource.baseType with
  | none => rfl
  | some base =>
      rw [Option.bind_some, Option.bind_some, resources_sorted, find?_map, Option.map_map,
        ← head?_filter, ← head?_filter (l := (resolve definitions).value.resources),
        ← filter_sorted]
      rfl

/-- **Sorting is stable and idempotent,** if there are no cycles of base types.

* If the definitions of each name stand together, and no definition stands before one of a base type
  of its name, then the order is that of the definitions, and sorted they stand as in the graph.
* Sorting what was sorted gives the same definitions in the same order.  Only the positions of their
  base types are those in the sorted list, and the same definitions are found there. -/
theorem sorted_stable_idempotent
    (acyclic : (resolve definitions).issues.filter (·.code == .circularBaseType) = []) :
    let graph := (resolve definitions).value
    let again := (resolve graph.sorted).value
    (IsOrdered definitions →
        graph.order = List.range definitions.length
          ∧ graph.sorted = definitions.map (placed definitions))
    ∧ again.order = List.range graph.sorted.length
    ∧ again.sorted.map unlinked = graph.sorted.map unlinked
    ∧ (again.sorted.map fun resource => (again.baseOf? resource).map unlinked)
      = graph.sorted.map fun resource => (graph.baseOf? resource).map unlinked := by
  intro graph again
  rw [filter_issues_resolve, map_eq_nil_iff] at acyclic
  have sortedAcyclic : circularWalks graph.sorted = [] := circularWalks_sorted acyclic
  have ordered : IsOrdered graph.sorted := isOrdered_sorted acyclic
  have sortedAgain : again.sorted = graph.sorted.map (linked graph.sorted) :=
    (sorted_of_isOrdered sortedAcyclic ordered).trans (resources_sorted definitions)
  refine ⟨fun h => ⟨order_of_isOrdered acyclic h, ?_⟩,
    order_of_isOrdered sortedAcyclic ordered, ?_, ?_⟩
  · rw [← resources_eq_map_placed]
    exact sorted_of_isOrdered acyclic h
  · rw [sortedAgain, map_map]
    rfl
  · rw [sortedAgain, map_map]
    exact map_congr_left fun resource mem => baseOf?_sorted mem

/-- A name whose definitions stand apart from each other, around its base type. -/
def apartDefinitions : List Resource :=
  [bareDefinition "foo.child" (some "foo.root") "1.md", bareDefinition "foo.root" none "2.md",
    bareDefinition "foo.child" none "3.md"]

/-- Sorting brings the definitions of the name together behind its base type, where they stay. -/
theorem apart_definitions_sorted :
    (resolve apartDefinitions).issues.filter (·.code == .circularBaseType) = []
      ∧ (resolve apartDefinitions).value.sorted.map (·.file) = ["2.md", "1.md", "3.md"]
      ∧ (let sorted := (resolve apartDefinitions).value.sorted
        (resolve sorted).value.order = List.range sorted.length
          ∧ (resolve sorted).value.sorted.map unlinked = sorted.map unlinked
          ∧ IsOrdered sorted ∧ (resolve sorted).value.sorted = sorted.map (placed sorted)) := by
  have acyclic : (resolve apartDefinitions).issues.filter (·.code == .circularBaseType)
      = [] := by decide
  have acyclicAgain : (resolve (resolve apartDefinitions).value.sorted).issues.filter
      (·.code == .circularBaseType) = [] := by decide
  have noWalk : circularWalks apartDefinitions = [] := by
    rwa [filter_issues_resolve, map_eq_nil_iff] at acyclic
  obtain ⟨-, order, sorted, -⟩ := sorted_stable_idempotent acyclic
  have ordered := isOrdered_sorted noWalk
  exact ⟨acyclic, by decide, order, sorted, ordered,
    ((sorted_stable_idempotent acyclicAgain).1 ordered).2⟩

end ResourceGraph

end DocAudit
