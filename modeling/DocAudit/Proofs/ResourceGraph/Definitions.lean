import DocAudit.ResourceGraph.Basic
import DocAudit.Proofs.ResourceGraph.AllNames

/-!
# Definitions by name

What the functions on the definitions of a set return, in terms of which definitions there are: the
names (`mem_names`, `nodup_names`), the positions of a name (`mem_positions`), and the base types of
a name, which are the edges of a graph on names (`HasBase`, `isBase_knownBases`).

Names are what all of them go by.  Agreeing on base types and finding them changes no name, so it
changes none of these (`names_map`, `positions_map`, `pagesOf_map`).
-/

namespace DocAudit

namespace Definitions

/-- A definition that declares nothing but a base type. -/
def bareDefinition (name : String) (base : Option String) (file : String) : Resource where
  name := name
  title := none
  description := none
  parameters := []
  baseType := base
  keyProperty := none
  isAbstract := false
  isOpen := false
  optionalProperties := []
  navigationProperties := []
  isTruncated := false
  file := file
  line := 1
  base := none

variable {resources : List Resource} {name base : String}

/-! ## Names -/

lemma mem_foldl_names (known : List String) :
    name ∈ resources.foldl (fun names resource =>
        if names.contains resource.name then names else names ++ [resource.name]) known ↔
      name ∈ known ∨ ∃ resource ∈ resources, resource.name = name := by
  induction resources generalizing known with
  | nil => simp
  | cons first rest ih =>
      rw [List.foldl_cons, ih]
      by_cases old : first.name ∈ known
      · rw [if_pos (by simpa using old), List.exists_mem_cons_iff]
        constructor
        · exact Or.imp_right .inr
        · rintro (mem | rfl | mem)
          · exact .inl mem
          · exact .inl old
          · exact .inr mem
      · rw [if_neg (by simpa using old), List.mem_append, List.mem_singleton,
          List.exists_mem_cons_iff, or_assoc, @eq_comm _ name]

/-- The names are those of the definitions. -/
lemma mem_names : name ∈ names resources ↔ ∃ resource ∈ resources, resource.name = name := by
  rw [names, mem_foldl_names]
  simp

/-- No name is listed twice. -/
lemma nodup_names : (names resources).Nodup := by
  have keeps : ∀ known : List String, known.Nodup → (resources.foldl (fun names resource =>
      if names.contains resource.name then names else names ++ [resource.name]) known).Nodup := by
    induction resources with
    | nil => exact fun _ nodup => nodup
    | cons first rest ih =>
        intro known nodup
        rw [List.foldl_cons]
        refine ih _ ?_
        by_cases old : first.name ∈ known
        · simpa [old] using nodup
        · simpa [old] using nodup.append (List.nodup_singleton _) (by simpa using old)
  exact keeps [] List.nodup_nil

lemma isKnown_iff :
    isKnown resources name = true ↔ ∃ resource ∈ resources, resource.name = name := by
  simp [isKnown]

/-! ## Positions -/

lemma mem_positions {position : ℕ} : position ∈ positions resources name ↔
    ∃ resource, resources[position]? = some resource ∧ resource.name = name := by
  simp only [positions, List.mem_filter, List.mem_range, Option.any_eq_true, beq_iff_eq]
  constructor
  · exact And.right
  · rintro ⟨resource, found, same⟩
    exact ⟨(List.getElem?_eq_some_iff.1 found).1, resource, found, same⟩

lemma nodup_positions : (positions resources name).Nodup :=
  List.nodup_range.filter _

/-- A position belongs to one name. -/
lemma disjoint_positions {other : String} (different : name ≠ other) :
    (positions resources name).Disjoint (positions resources other) := by
  intro position mem mem'
  obtain ⟨resource, found, rfl⟩ := mem_positions.1 mem
  obtain ⟨resource', found', rfl⟩ := mem_positions.1 mem'
  rw [found] at found'
  exact different (congrArg Resource.name (Option.some.inj found'))

/-! ## Pages -/

lemma mem_pagesOf {names : List String} {page : String} : page ∈ pagesOf resources names ↔
    ∃ resource ∈ resources, resource.name ∈ names ∧ resource.file = page := by
  simp [pagesOf, Text.mem_sorted, and_assoc]

/-! ## Base types -/

lemma mem_baseTypes : base ∈ baseTypes resources name ↔
    ∃ resource ∈ resources, resource.name = name ∧ resource.baseType = some base := by
  simp [baseTypes, Text.mem_sorted, and_assoc]

/-- Agreeing on base types does not overrule one that is declared. -/
lemma baseType_agreed {resource : Resource} (mem : resource ∈ resources)
    (declared : resource.baseType = some base) :
    (agreed resources resource).baseType = some base := by
  have isOne : base ∈ baseTypes resources resource.name :=
    mem_baseTypes.2 ⟨resource, mem, rfl, declared⟩
  unfold agreed
  split
  · next only found =>
      rw [found, List.mem_singleton] at isOne
      rw [isOne]
  · exact declared

/-- What a definition has as a base type, some definition of the name declares. -/
lemma mem_baseTypes_of_agreed {resource : Resource} (mem : resource ∈ resources)
    (hasBase : (agreed resources resource).baseType = some base) :
    base ∈ baseTypes resources resource.name := by
  unfold agreed at hasBase
  split at hasBase
  · next only found =>
      obtain rfl : only = base := Option.some.inj hasBase
      simp [found]
  · exact mem_baseTypes.2 ⟨resource, mem, rfl, hasBase⟩

/-! ## What does not change names -/

section

variable {change : Resource → Resource} (same : ∀ resource, (change resource).name = resource.name)
include same

lemma exists_map : (∃ resource ∈ resources.map change, resource.name = name) ↔
    ∃ resource ∈ resources, resource.name = name := by
  simp [same]

lemma names_map : names (resources.map change) = names resources := by
  simp [names, List.foldl_map, same]

lemma positions_map : positions (resources.map change) name = positions resources name := by
  simp [positions, Option.any_map, same]

lemma pagesOf_map (sameFile : ∀ resource, (change resource).file = resource.file)
    {names : List String} :
    pagesOf (resources.map change) names = pagesOf resources names := by
  simp [pagesOf, List.filter_map, Function.comp_def, same, sameFile]

end

lemma name_agreed (resource : Resource) : (agreed resources resource).name = resource.name := by
  unfold agreed
  split <;> rfl

lemma file_agreed (resource : Resource) : (agreed resources resource).file = resource.file := by
  unfold agreed
  split <;> rfl

end Definitions

namespace ResourceGraph

open Definitions

variable {resources : List Resource} {name base : String}

/-! ## The graph of base types -/

/-- A definition of a name has a base type, and that is the name of a resource. -/
def HasBase (resources : List Resource) (name base : String) : Prop :=
  (∃ resource ∈ resources, resource.name = name ∧ resource.baseType = some base) ∧
    ∃ resource ∈ resources, resource.name = base

/-- Visiting goes along base types. -/
lemma isBase_knownBases :
    Visits.IsBase (knownBases resources) name base ↔ HasBase resources name base := by
  simp only [Visits.IsBase, knownBases, baseTypes, List.mem_filter, Text.mem_sorted,
    List.mem_filterMap, isKnown_iff, beq_iff_eq, HasBase, and_assoc]

/-- Base types of names are names, so visiting all names needs nothing else. -/
lemma known_names : Visits.Known (knownBases resources) (names resources) := by
  intro name base isBase
  obtain ⟨⟨resource, mem, rfl, -⟩, isName⟩ := isBase_knownBases.1 isBase
  exact ⟨mem_names.2 ⟨resource, mem, rfl⟩, mem_names.2 isName⟩

/-- A base type is visited once from a name, however many definitions have it. -/
lemma nodup_knownBases : (knownBases resources name).Nodup :=
  (Text.nodup_sorted _).filter _

lemma name_linked (resource : Resource) : (linked resources resource).name = resource.name := rfl

lemma baseType_linked (resource : Resource) :
    (linked resources resource).baseType = resource.baseType := rfl

/-- Finding base types does not change them. -/
lemma hasBase_map_linked {known : List Resource} :
    HasBase (resources.map (linked known)) name base ↔ HasBase resources name base := by
  simp [HasBase, name_linked, baseType_linked]

/-! ## What is brought together -/

/-- The definitions of a set, agreed on their base types. -/
def reconciled (definitions : List Resource) : List Resource :=
  definitions.map (agreed definitions)

variable {definitions : List Resource}

lemma resources_resolve : (resolve definitions).value.resources
    = (reconciled definitions).map (linked (reconciled definitions)) := rfl

lemma sortedNames_resolve : (resolve definitions).value.sortedNames
    = (Visits.ofNames (knownBases (reconciled definitions))
        (names (reconciled definitions))).finished := by
  rw [reconciled, names_map name_agreed]
  rfl

/-- The resources of the graph stand for the definitions, at the same positions and under the same
names. -/
lemma map_name_resources : (resolve definitions).value.resources.map (·.name)
    = definitions.map (·.name) := by
  simp [resources_resolve, reconciled, Function.comp_def, name_linked, name_agreed]

lemma exists_resource_iff :
    (∃ resource ∈ (resolve definitions).value.resources, resource.name = name) ↔
    ∃ definition ∈ definitions, definition.name = name := by
  rw [resources_resolve, exists_map name_linked, reconciled, exists_map name_agreed]

lemma positions_resources :
    positions (resolve definitions).value.resources name = positions definitions name := by
  rw [resources_resolve, positions_map name_linked, reconciled, positions_map name_agreed]

lemma hasBase_resources : HasBase (resolve definitions).value.resources name base ↔
    HasBase (reconciled definitions) name base := by
  rw [resources_resolve, hasBase_map_linked]

/-- What a name has as a base type, some definition of it declares. -/
lemma mem_baseTypes_of_hasBase (h : HasBase (resolve definitions).value.resources name base) :
    base ∈ baseTypes definitions name := by
  obtain ⟨⟨resource, mem, rfl, hasBase⟩, -⟩ := hasBase_resources.1 h
  obtain ⟨definition, isDefinition, rfl⟩ := List.mem_map.1 mem
  rw [name_agreed]
  exact mem_baseTypes_of_agreed isDefinition hasBase

/-- Visiting goes along base types, so what is known about visits is known about base types. -/
lemma hasBase_eq : HasBase (resolve definitions).value.resources
    = Visits.IsBase (knownBases (reconciled definitions)) := by
  funext name base
  exact propext (hasBase_resources.trans isBase_knownBases.symm)

lemma mem_sortedNames : name ∈ (resolve definitions).value.sortedNames ↔
    ∃ definition ∈ definitions, definition.name = name := by
  rw [sortedNames_resolve, Visits.mem_finished known_names, mem_names, reconciled,
    exists_map name_agreed]

lemma nodup_sortedNames : (resolve definitions).value.sortedNames.Nodup := by
  rw [sortedNames_resolve]
  exact Visits.nodup_finished known_names

/-! ## Base types that are found -/

lemma base_resolve {resource : Resource} (mem : resource ∈ (resolve definitions).value.resources) :
    resource.base = resource.baseType.bind fun base =>
      (resolve definitions).value.resources.findIdx? (·.name == base) := by
  rw [resources_resolve] at mem ⊢
  obtain ⟨definition, -, rfl⟩ := List.mem_map.1 mem
  simp only [linked, List.findIdx?_map]
  rfl

/-- What is found for a resource is a definition of its base type. -/
lemma of_baseOf?_eq_some {resource found : Resource}
    (mem : resource ∈ (resolve definitions).value.resources)
    (h : (resolve definitions).value.baseOf? resource = some found) :
    found ∈ (resolve definitions).value.resources ∧ resource.baseType = some found.name := by
  obtain ⟨position, isBase, isFound⟩ := Option.bind_eq_some_iff.1 h
  rw [base_resolve mem] at isBase
  obtain ⟨base, hasBase, isFirst⟩ := Option.bind_eq_some_iff.1 isBase
  have named := List.of_findIdx?_eq_some isFirst
  rw [isFound] at named
  obtain rfl : found.name = base := by simpa using named
  exact ⟨List.mem_of_getElem? isFound, hasBase⟩

/-- A base type that is the name of a resource is found. -/
lemma exists_baseOf?_eq_some {resource : Resource}
    (mem : resource ∈ (resolve definitions).value.resources)
    (hasBase : resource.baseType = some base)
    (known : ∃ other ∈ (resolve definitions).value.resources, other.name = base) :
    ∃ found, (resolve definitions).value.baseOf? resource = some found := by
  have isFirst : (List.findIdx? (·.name == base) (resolve definitions).value.resources).isSome := by
    simpa [List.findIdx?_isSome] using known
  obtain ⟨position, isFirst⟩ := Option.isSome_iff_exists.1 isFirst
  obtain ⟨inside, -⟩ := List.findIdx?_eq_some_iff_getElem.1 isFirst
  refine ⟨(resolve definitions).value.resources[position], ?_⟩
  rw [baseOf?, base_resolve mem, hasBase, Option.bind_some, isFirst, Option.bind_some,
    List.getElem?_eq_getElem inside]

/-- Positions of base types are positions of the graph. -/
lemma base_eq_none {resource : Resource} (mem : resource ∈ (resolve definitions).value.resources)
    (h : (resolve definitions).value.baseOf? resource = none) : resource.base = none := by
  cases isBase : resource.base with
  | none => rfl
  | some position =>
      have isFirst := isBase
      rw [base_resolve mem] at isFirst
      obtain ⟨base, -, isFirst⟩ := Option.bind_eq_some_iff.1 isFirst
      obtain ⟨inside, -⟩ := List.findIdx?_eq_some_iff_getElem.1 isFirst
      rw [baseOf?, isBase, Option.bind_some, List.getElem?_eq_getElem inside] at h
      simp at h

end ResourceGraph

end DocAudit
