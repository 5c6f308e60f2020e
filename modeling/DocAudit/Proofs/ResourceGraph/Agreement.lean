import DocAudit.Proofs.ResourceGraph.DocumentOrder

/-!
# Agreeing on base types

The definitions of a name agree on a base type if only one is declared among them.  What they agree
on depends on the set of the declared base types (`declaredBaseTypes`): with none there is nothing
to agree on, one counts for all (`agreed_of_one`), and with several everything stays
(`agreed_of_several`) and there is one finding.

Definitions agree by name.  Those of other names have no influence (`map_baseType_resolve`), and a
definition that has agreed with those of its name does so again without a change (`agreed_placed`).
-/

namespace DocAudit.ResourceGraph

open List Definitions

variable {definitions : List Resource} {definition : Resource} {name base : String}

/-! ## Declared base types -/

/-- The different base types that the definitions of a name declare. -/
def declaredBaseTypes (definitions : List Resource) (name : String) : Finset String :=
  ((definitions.filter (·.name == name)).filterMap (·.baseType)).toFinset

lemma toFinset_baseTypes (definitions : List Resource) (name : String) :
    (baseTypes definitions name).toFinset = declaredBaseTypes definitions name := by
  ext base
  rw [mem_toFinset, baseTypes, Text.mem_sorted, declaredBaseTypes, mem_toFinset]

lemma card_declaredBaseTypes (definitions : List Resource) (name : String) :
    (declaredBaseTypes definitions name).card = (baseTypes definitions name).length := by
  have distinct : (baseTypes definitions name).Nodup := Text.nodup_sorted _
  rw [← toFinset_baseTypes, toFinset_card_of_nodup distinct]

/-- There is a conflict where several base types are declared, which takes definitions. -/
lemma mem_conflictingNames_iff :
    name ∈ conflictingNames definitions ↔ 1 < (declaredBaseTypes definitions name).card := by
  rw [mem_conflictingNames, card_declaredBaseTypes]
  refine and_iff_right_of_imp fun several => ?_
  obtain ⟨base, mem⟩ := exists_mem_of_length_pos (Nat.lt_trans Nat.one_pos several)
  obtain ⟨definition, isDefinition, named, -⟩ := mem_baseTypes.1 mem
  exact ⟨definition, isDefinition, named⟩

/-! ## Definitions that agree -/

lemma baseType_agreed_of_none (mem : definition ∈ definitions)
    (undeclared : declaredBaseTypes definitions definition.name = ∅) :
    (agreed definitions definition).baseType = none := by
  rw [Option.eq_none_iff_forall_ne_some]
  intro base hasBase
  have declared := mem_toFinset.2 (mem_baseTypes_of_agreed mem hasBase)
  rw [toFinset_baseTypes, undeclared] at declared
  cases declared

lemma agreed_of_one (one : declaredBaseTypes definitions definition.name = {base}) :
    agreed definitions definition = { definition with baseType := some base } := by
  have only : baseTypes definitions definition.name = [base] := by
    have same : (baseTypes definitions definition.name).toFinset = [base].toFinset := by
      rw [toFinset_baseTypes, one]
      rfl
    exact perm_singleton.1
      (perm_of_nodup_nodup_toFinset_eq (Text.nodup_sorted _) (nodup_singleton base) same)
  rw [agreed, only]

lemma agreed_of_several (several : 1 < (declaredBaseTypes definitions definition.name).card) :
    agreed definitions definition = definition := by
  rw [card_declaredBaseTypes] at several
  unfold agreed
  split
  · next only =>
      rw [only, length_singleton] at several
      exact absurd several (Nat.lt_irrefl 1)
  · rfl

/-- Agreeing changes nothing but base types. -/
lemma placed_eq (definition : Resource) : { placed definitions definition with
    baseType := definition.baseType, base := definition.base } = definition := by
  unfold placed linked agreed
  split <;> rfl

/-! ## Definitions of one name -/

/-- Only definitions of the same name count. -/
lemma agreed_filter (mem : definition ∈ definitions.filter (·.name == name)) :
    agreed (definitions.filter (·.name == name)) definition = agreed definitions definition := by
  obtain rfl : definition.name = name := by simpa using (mem_filter.1 mem).2
  have same : baseTypes (definitions.filter (·.name == definition.name)) definition.name
      = baseTypes definitions definition.name := by
    rw [baseTypes, filter_filter, baseTypes]
    simp only [Bool.and_self]
  rw [agreed, agreed, same]

/-- The base types of the definitions of a name, as these agree among themselves. -/
lemma map_baseType_resolve (definitions : List Resource) (name : String) :
    ((resolve definitions).value.resources.filter (·.name == name)).map (·.baseType)
      = (definitions.filter (·.name == name)).map fun definition =>
          (agreed (definitions.filter (·.name == name)) definition).baseType := by
  have group : (resolve definitions).value.resources.filter (·.name == name)
      = (definitions.filter (·.name == name)).map (placed definitions) := by
    rw [resources_eq_map_placed, filter_map]
    refine congrArg _ (filter_congr fun definition _ => ?_)
    rw [Function.comp_apply, name_placed]
  rw [group, map_map]
  refine map_congr_left fun definition mem => ?_
  rw [agreed_filter mem]
  rfl

/-! ## Agreeing again -/

/-- Agreeing declares no base type that was not declared before. -/
lemma baseTypes_reconciled (definitions : List Resource) (name : String) :
    baseTypes (reconciled definitions) name = baseTypes definitions name := by
  refine (Text.pairwise_sorted _).eq_of_mem_iff (Text.pairwise_sorted _) fun {base} => ?_
  show base ∈ baseTypes (reconciled definitions) name ↔ base ∈ baseTypes definitions name
  constructor
  · rw [mem_baseTypes]
    rintro ⟨resource, mem, rfl, hasBase⟩
    obtain ⟨definition, isDefinition, rfl⟩ := mem_map.1 mem
    rw [name_agreed]
    exact mem_baseTypes_of_agreed isDefinition hasBase
  · rw [mem_baseTypes, mem_baseTypes]
    rintro ⟨definition, isDefinition, rfl, declared⟩
    exact ⟨_, mem_map_of_mem isDefinition, name_agreed definition,
      baseType_agreed isDefinition declared⟩

lemma hasBase_reconciled :
    HasBase (reconciled definitions) name base ↔ HasBase definitions name base := by
  rw [HasBase, HasBase, ← mem_baseTypes, ← mem_baseTypes, baseTypes_reconciled, reconciled,
    exists_map name_agreed]

/-- A definition that has agreed with those of its name agrees with them again. -/
lemma agreed_placed {others : List Resource}
    (same : baseTypes others definition.name = baseTypes definitions definition.name) :
    agreed others (placed definitions definition) = placed definitions definition := by
  unfold agreed
  split
  · next base only =>
      rw [name_placed, same] at only
      have own : agreed definitions definition = { definition with baseType := some base } := by
        rw [agreed, only]
      rw [placed, own]
      rfl
  · rfl

/-! ## What is reported -/

/-- **The definitions of a name agree on a base type,** whatever the definitions are.

* Every definition stands in the graph at its position.  If no definition of its name declares a
  base type it has none, if they declare one it has that one, and if they declare several it keeps
  its own.  Nothing else about it changes.
* There is one error for each name with several base types, and no other one of this kind.  Its
  pages are those that define the name.
* Definitions of other names have no influence: with others in their place the definitions of a name
  end with the same base types. -/
theorem baseTypes_agreed_by_name (definitions : List Resource) :
    let graph := (resolve definitions).value
    let conflicts := (resolve definitions).issues.filter (·.code == .baseTypeConflict)
    (graph.resources.length = definitions.length
      ∧ ∀ (position : ℕ) (definition : Resource), definitions[position]? = some definition →
          ∃ resource, graph.resources[position]? = some resource
            ∧ (declaredBaseTypes definitions definition.name = ∅ → resource.baseType = none)
            ∧ (∀ base, declaredBaseTypes definitions definition.name = {base} →
              resource.baseType = some base)
            ∧ (1 < (declaredBaseTypes definitions definition.name).card →
                resource.baseType = definition.baseType)
            ∧ { resource with baseType := definition.baseType, base := definition.base }
              = definition)
    ∧ (∃ names : List String, names.Nodup
        ∧ (∀ name, name ∈ names ↔ 1 < (declaredBaseTypes definitions name).card)
        ∧ conflicts = names.map (conflictIssue definitions)
        ∧ ∀ name, (conflictIssue definitions name).isError = true
            ∧ ∀ page, page ∈ (conflictIssue definitions name).pages ↔
                ∃ definition ∈ definitions, definition.name = name ∧ definition.file = page)
    ∧ (∀ name, ∀ others : List Resource,
        others.filter (·.name == name) = definitions.filter (·.name == name) →
        ((resolve others).value.resources.filter (·.name == name)).map (·.baseType)
          = (graph.resources.filter (·.name == name)).map (·.baseType)) := by
  intro graph conflicts
  refine ⟨⟨?_, ?_⟩,
    ⟨conflictingNames definitions, nodup_conflictingNames, fun name => mem_conflictingNames_iff,
    filter_conflicts_resolve, ?_⟩, ?_⟩
  · show (resolve definitions).value.resources.length = definitions.length
    rw [resources_eq_map_placed, length_map]
  · intro position definition found
    have mem := mem_of_getElem? found
    refine ⟨placed definitions definition, getElem?_resources found, ?_, ?_, ?_,
      placed_eq definition⟩
    · exact baseType_agreed_of_none mem
    · intro base one
      rw [placed, baseType_linked, agreed_of_one one]
    · intro several
      rw [placed, baseType_linked, agreed_of_several several]
  · intro name
    refine ⟨rfl, fun page => ?_⟩
    show page ∈ pagesOf definitions [name] ↔ _
    rw [mem_pagesOf]
    simp only [mem_singleton]
  · intro name others same
    rw [map_baseType_resolve, map_baseType_resolve, same]

/-- Of two definitions of a name, the second one does not say what the base type is. -/
def pairDefinitions : List Resource :=
  [bareDefinition "foo.item" (some "foo.base") "1.md", bareDefinition "foo.item" none "2.md"]

/-- The second definition ends with the base type that the first one declares. -/
theorem second_definition_agrees :
    declaredBaseTypes pairDefinitions "foo.item" = {"foo.base"}
      ∧ ∃ resource, (resolve pairDefinitions).value.resources[1]? = some resource
        ∧ resource.file = "2.md" ∧ resource.baseType = some "foo.base" := by
  have one : declaredBaseTypes pairDefinitions "foo.item" = {"foo.base"} := by decide
  obtain ⟨⟨-, agree⟩, -⟩ := baseTypes_agreed_by_name pairDefinitions
  obtain ⟨resource, isPlaced, -, ofOne, -, rest⟩ := agree 1 _ rfl
  exact ⟨one, resource, isPlaced, congrArg Resource.file rest, ofOne "foo.base" one⟩

end DocAudit.ResourceGraph
