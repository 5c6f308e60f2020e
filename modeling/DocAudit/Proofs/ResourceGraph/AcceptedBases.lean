import DocAudit.Proofs.ResourceGraph.BasesFirst
import DocAudit.Proofs.ResourceGraph.CircularBases
import DocAudit.Proofs.ResourceGraph.References

/-!
# Accepted base types

Checking accepts a declared base type if it is the name of a resource, or if it is one in the
namespace of the resource that declares it (`Accepted`).  Finding base types and visiting them goes
by the name as it is written.  So the three agree on a base type exactly if it is accepted as it is
written (`base_found_iff_as_written`), and `unqualified_base_not_found` shows a set on which they do
not.
-/

namespace DocAudit.ResourceGraph

open List Definitions

variable {definitions : List Resource} {definition resource : Resource} {name base target : String}

/-! ## What checking accepts -/

/-- The names of resources for which a declared base type is accepted. -/
def Accepted (definitions : List Resource) (definition : Resource) (base target : String) : Prop :=
  (target = base ∨ target = TypeReference.qualified ⟨"base type", base⟩ definition)
    ∧ ∃ other ∈ definitions, other.name = target

/-- A definition of a name declares a base type that is accepted for a resource. -/
def HasAcceptedBase (definitions : List Resource) (name target : String) : Prop :=
  ∃ definition ∈ definitions, definition.name = name ∧
    ∃ base, definition.baseType = some base ∧ Accepted definitions definition base target

/-- A name in the namespace of a resource depends on the name of the resource only. -/
lemma qualified_congr {other : Resource} (same : other.name = definition.name)
    (reference : TypeReference) :
    reference.qualified other = reference.qualified definition := by
  simp only [TypeReference.qualified, Resource.namespace?, same]

/-- Checking makes no finding for an accepted base type. -/
lemma Accepted.isResolved (accepted : Accepted definitions definition base target)
    (same : resource.name = definition.name) (enums : List String) :
    isResolved ((resolve definitions).value.knownNames enums) resource ⟨"base type", base⟩
      = true := by
  rw [isResolved_iff, Recognized, qualified_congr same]
  obtain ⟨rfl | rfl, known⟩ := accepted
  · exact .inr (.inl known)
  · exact .inl (.inl known)

/-! ## What is found -/

/-- The resource that stands for a definition keeps its name, and the base type that it declares. -/
lemma exists_resource {position : ℕ} (found : definitions[position]? = some definition)
    (declared : definition.baseType = some base) :
    ∃ resource, (resolve definitions).value.resources[position]? = some resource
      ∧ resource.name = definition.name ∧ resource.baseType = some base := by
  have kept := baseType_agreed (List.mem_of_getElem? found) declared
  refine ⟨linked (reconciled definitions) (agreed definitions definition), ?_, ?_, ?_⟩
  · rw [resources_resolve, reconciled, List.getElem?_map, List.getElem?_map, found]
    rfl
  · rw [name_linked, name_agreed]
  · rw [baseType_linked, kept]

/-- A definition of the accepted resource is found if and only if the base type is written as its
name. -/
lemma exists_baseOf?_iff (mem : resource ∈ (resolve definitions).value.resources)
    (hasBase : resource.baseType = some base)
    (known : ∃ other ∈ (resolve definitions).value.resources, other.name = target) :
    (∃ found, (resolve definitions).value.baseOf? resource = some found ∧ found.name = target) ↔
      target = base := by
  constructor
  · rintro ⟨found, isBase, rfl⟩
    have declared := (of_baseOf?_eq_some mem isBase).2
    exact Option.some.inj (declared.symm.trans hasBase)
  · rintro rfl
    obtain ⟨found, isBase⟩ := exists_baseOf?_eq_some mem hasBase known
    have declared := (of_baseOf?_eq_some mem isBase).2
    exact ⟨found, isBase, Option.some.inj (declared.symm.trans hasBase)⟩

/-! ## Cycles -/

/-- If no conflict is reported, the definitions of a name have at most one base type. -/
lemma length_baseTypes_le
    (agree : ∀ issue ∈ (resolve definitions).issues, issue.code ≠ .baseTypeConflict)
    (name : String) : (baseTypes definitions name).length ≤ 1 := by
  by_contra several
  have several : (baseTypes definitions name).length > 1 := Nat.lt_of_not_le several
  obtain ⟨base, mem⟩ := List.exists_mem_of_length_pos (Nat.lt_trans Nat.one_pos several)
  obtain ⟨definition, isDefinition, same, -⟩ := mem_baseTypes.1 mem
  have reported : (reportConflict definitions name).issues ≠ [] := by
    rw [reportConflict, if_pos several]
    exact List.cons_ne_nil _ _
  obtain ⟨issue, isReported⟩ := List.exists_mem_of_ne_nil _ reported
  refine agree issue ?_ (code_of_mem_conflict isReported)
  rw [issues_resolve]
  refine List.mem_append_left _
    (List.mem_append_right _ (List.mem_flatMap.2 ⟨name, ?_, isReported⟩))
  exact mem_names.2 ⟨definition, isDefinition, same⟩

/-- If no conflict is reported, no name has two base types. -/
lemma base_unique (agree : ∀ issue ∈ (resolve definitions).issues, issue.code ≠ .baseTypeConflict)
    {other : String} (h : HasBase (resolve definitions).value.resources name base)
    (h' : HasBase (resolve definitions).value.resources name other) : base = other := by
  have short := length_baseTypes_le agree name
  have mem := mem_baseTypes_of_hasBase h
  have mem' := mem_baseTypes_of_hasBase h'
  obtain ⟨only, isOnly⟩ := List.length_eq_one_iff.1
    (Nat.le_antisymm short (List.length_pos_of_mem mem))
  rw [isOnly, List.mem_singleton] at mem mem'
  rw [mem, mem']

/-- If no conflict is reported, a cycle of names is reported if and only if it goes along base types
as they are written. -/
lemma exists_circularWalk_iff
    (agree : ∀ issue ∈ (resolve definitions).issues, issue.code ≠ .baseTypeConflict)
    {cycle : Cycle String} (nonempty : cycle ≠ Cycle.nil) (nodup : cycle.Nodup) :
    (∃ walk ∈ circularWalks definitions, (↑walk.tail : Cycle String) = cycle) ↔
      cycle.Chain (HasBase (resolve definitions).value.resources) := by
  constructor
  · rintro ⟨walk, kept, rfl⟩
    obtain ⟨closed, distinct⟩ := closed_of_mem_circularWalks kept
    exact (closed.mem_simpleCycles distinct).2.2
  · intro chain
    rw [hasBase_eq] at chain
    refine Visits.exists_coe_tail_eq known_names ?_ ⟨nonempty, nodup, chain⟩
    rw [← hasBase_eq]
    exact fun name base other h h' => base_unique agree h h'

/-! ## Agreement -/

/-- **Checking, finding and sorting agree on a base type exactly if it is accepted as it is
written.**

* Let a definition declare a base type, and let this be accepted for a resource.  Checking makes no
  finding.  A definition of that resource is found, and comes before the definition if there are no
  cycles, if and only if the base type is written as the name of the resource: not so if it is
  accepted in the namespace of the definition only.
* If no conflict is reported, a cycle of accepted base types is reported if and only if all of them
  are written as the names of the resources that they are accepted for. -/
theorem base_found_iff_as_written (definitions : List Resource) :
    let graph := (resolve definitions).value
    let issues := (resolve definitions).issues
    let circular := issues.filter (·.code == .circularBaseType)
    (∀ position definition base target, definitions[position]? = some definition →
        definition.baseType = some base → Accepted definitions definition base target →
        ∃ resource, graph.resources[position]? = some resource
          ∧ (∀ enums, isResolved (graph.knownNames enums) resource ⟨"base type", base⟩ = true)
          ∧ (((∃ found, graph.baseOf? resource = some found ∧ found.name = target)
              ∧ (circular = [] → ∀ first ∈ positions definitions target,
                  graph.order.idxOf first < graph.order.idxOf position)) ↔ target = base))
    ∧ ((∀ issue ∈ issues, issue.code ≠ .baseTypeConflict) →
        ∃ walks : List (List String), circular = walks.map (circularIssue definitions)
          ∧ ∀ cycle ∈ simpleCycles (HasAcceptedBase definitions),
              (∃ walk ∈ walks, (↑walk.tail : Cycle String) = cycle) ↔
                cycle.Chain (HasBase graph.resources)) := by
  intro graph issues circular
  refine ⟨?_, ?_⟩
  · intro position definition base target found declared accepted
    obtain ⟨resource, isResource, sameName, hasBase⟩ := exists_resource found declared
    have mem : resource ∈ graph.resources := List.mem_of_getElem? isResource
    have known : ∃ other ∈ graph.resources, other.name = target := exists_resource_iff.2 accepted.2
    refine ⟨resource, isResource, accepted.isResolved sameName, ?_⟩
    rw [exists_baseOf?_iff mem hasBase known, and_iff_left_iff_imp]
    rintro rfl noCycle first isFirst
    have isCircular : circular = (circularWalks definitions).map (circularIssue definitions) :=
      filter_issues_resolve
    rw [isCircular, List.map_eq_nil_iff] at noCycle
    have before := pair_sublist_of_circularWalks_eq_nil noCycle
      ⟨⟨resource, mem, sameName, hasBase⟩, known⟩
    exact idxOf_order_lt before isFirst (mem_positions.2 ⟨definition, found, rfl⟩)
  · intro agree
    refine ⟨circularWalks definitions, filter_issues_resolve, ?_⟩
    rintro cycle ⟨nonempty, nodup, -⟩
    exact exists_circularWalk_iff agree nonempty nodup

/-- A base type without its namespace is accepted, but not found, and its resource does not come
first.  Two such base types make a cycle that is not reported. -/
theorem unqualified_base_not_found :
    (let child := bareDefinition "foo.child" (some "root") "a.md"
      let definitions := [child, bareDefinition "foo.root" none "b.md"]
      let graph := (resolve definitions).value
      Accepted definitions child "root" "foo.root" ∧ (resolve definitions).issues = []
        ∧ graph.checkReferences [] = [] ∧ graph.resources.map graph.baseOf? = [none, none]
        ∧ graph.sortedNames = ["foo.child", "foo.root"])
    ∧ (let definitions := [bareDefinition "foo.a" (some "b") "a.md",
        bareDefinition "foo.b" (some "a") "b.md"]
      IsClosedWalk (HasAcceptedBase definitions) ["foo.a", "foo.b", "foo.a"]
        ∧ (resolve definitions).issues = []) := by
  refine ⟨⟨?_, rfl, rfl, rfl, by decide⟩, ?_, rfl⟩
  · exact ⟨.inr (by decide), _, List.mem_of_getElem? (i := 1) rfl, rfl⟩
  refine ⟨"foo.a", ["foo.b"], rfl, isChain_cons_cons.2 ⟨?_, isChain_pair.2 ?_⟩⟩
  · refine ⟨_, List.mem_of_getElem? (i := 0) rfl, rfl, "b", rfl, .inr (by decide), ?_⟩
    exact ⟨_, List.mem_of_getElem? (i := 1) rfl, rfl⟩
  · refine ⟨_, List.mem_of_getElem? (i := 1) rfl, rfl, "a", rfl, .inr (by decide), ?_⟩
    exact ⟨_, List.mem_of_getElem? (i := 0) rfl, rfl⟩

end DocAudit.ResourceGraph
