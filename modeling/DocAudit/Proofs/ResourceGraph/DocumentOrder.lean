import DocAudit.Proofs.ResourceGraph.NameFindings
import DocAudit.Proofs.ResourceGraph.UnresolvedTypes

/-!
# The order of documents

Definitions are brought together in the order of the pages, but what is found does not depend on
this order.  Each verdict depends only on which definitions there are: the base types of a name
(`baseTypes_congr`), hence the agreed base types (`agreed_congr`) and the graph of base types
(`hasBase_resolve_congr`), and what definitions lack (`lacks_congr`).  Names are met in another
order, but they are the same ones (`names_perm`), so a set of pages in another order gives the same
findings (`sameFindings_of_perm`).
-/

namespace DocAudit.ResourceGraph

open List Definitions

variable {definitions first second : List Resource} {enums : List String}
  {definition resource : Resource} {name base type : String}

/-! ## Cycles and base types of single definitions -/

/-- There are no issues for cycles exactly if there is no closed walk along base types. -/
lemma circularWalks_eq_nil_iff : circularWalks definitions = []
    ↔ ¬ ∃ walk, IsClosedWalk (HasBase (resolve definitions).value.resources) walk := by
  rw [eq_nil_iff_forall_not_mem]
  constructor
  · rintro noWalk ⟨walk, closed⟩
    obtain ⟨kept, mem, -⟩ := exists_closing_walk closed
    exact noWalk kept mem
  · intro noWalk walk kept
    exact noWalk ⟨walk, (closed_of_mem_circularWalks kept).1⟩

/-- What is found as the base type of a resource has the name of its base type, if a resource has
it. -/
lemma map_name_baseOf? (mem : resource ∈ (resolve definitions).value.resources) :
    ((resolve definitions).value.baseOf? resource).map (·.name)
      = resource.baseType.filter (isKnown definitions) := by
  cases found : (resolve definitions).value.baseOf? resource with
  | some other =>
      obtain ⟨isResource, isBase⟩ := of_baseOf?_eq_some mem found
      have known : isKnown definitions other.name = true :=
        isKnown_iff.2 (exists_resource_iff.1 ⟨other, isResource, rfl⟩)
      rw [isBase, Option.map_some, Option.filter_some, if_pos known]
  | none =>
      rw [Option.map_none, eq_comm, Option.filter_eq_none_iff]
      intro base isBase known
      obtain ⟨other, isFound⟩ :=
        exists_baseOf?_eq_some mem isBase (exists_resource_iff.2 (isKnown_iff.1 known))
      rw [found] at isFound
      cases isFound

lemma getElem?_resources {position : ℕ} (found : definitions[position]? = some definition) :
    (resolve definitions).value.resources[position]? = some (placed definitions definition) := by
  rw [resources_eq_map_placed, getElem?_map, found, Option.map_some]

/-! ## Which definitions there are -/

section

variable (same : ∀ definition, definition ∈ first ↔ definition ∈ second)
include same

lemma isKnown_congr : isKnown first = isKnown second := by
  funext name
  rw [Bool.eq_iff_iff, isKnown_iff, isKnown_iff]
  simp only [same]

lemma baseTypes_congr (name : String) : baseTypes first name = baseTypes second name := by
  have declared (base : String) : base ∈ baseTypes first name ↔ base ∈ baseTypes second name := by
    simp only [mem_baseTypes, same]
  -- sorted texts are told apart by their members
  exact (Text.pairwise_sorted _).eq_of_mem_iff (Text.pairwise_sorted _) declared

/-- A definition agrees with the others of its name on the same base type. -/
lemma agreed_congr : agreed first = agreed second := by
  funext definition
  rw [agreed, agreed, baseTypes_congr same]

lemma mem_reconciled_congr (resource : Resource) :
    resource ∈ reconciled first ↔ resource ∈ reconciled second := by
  simp only [reconciled, mem_map, agreed_congr same, same]

lemma hasBase_resolve_congr :
    HasBase (resolve first).value.resources = HasBase (resolve second).value.resources := by
  funext name base
  rw [eq_iff_iff, hasBase_resources, hasBase_resources]
  simp only [HasBase, mem_reconciled_congr same]

lemma declared_congr (name : String) : Declared first enums name ↔ Declared second enums name := by
  simp only [Declared, same]

lemma lacks_congr : Lacks first enums definition type ↔ Lacks second enums definition type := by
  simp only [Lacks, declared_congr same]

/-- The names are the same, though they may be met in another order. -/
lemma names_perm : names first ~ names second := by
  rw [perm_ext_iff_of_nodup nodup_names nodup_names]
  simp only [mem_names, same, implies_true]

lemma conflictingNames_perm : conflictingNames first ~ conflictingNames second := by
  rw [perm_ext_iff_of_nodup nodup_conflictingNames nodup_conflictingNames]
  simp only [mem_conflictingNames, same, baseTypes_congr same, implies_true]

lemma length_caseMismatches_congr :
    (caseMismatches first).length = (caseMismatches second).length := by
  have met := names_perm same
  have counted := length_caseMismatches_add first
  have counted' := length_caseMismatches_add second
  have sameCaseless : ((names first).map caseless).toFinset
      = ((names second).map caseless).toFinset :=
    toFinset_eq_of_perm _ _ (met.map caseless)
  have sameLength := met.length_eq
  rw [sameCaseless] at counted
  omega

lemma circularWalks_eq_nil_congr : circularWalks first = [] ↔ circularWalks second = [] := by
  rw [circularWalks_eq_nil_iff, circularWalks_eq_nil_iff, hasBase_resolve_congr same]

lemma unresolvedKeys_perm : unresolvedKeys first enums ~ unresolvedKeys second enums := by
  rw [perm_ext_iff_of_nodup nodup_unresolvedKeys nodup_unresolvedKeys]
  rintro ⟨name, type⟩
  simp only [mem_unresolvedKeys, same, lacks_congr same]

lemma baseType_placed_congr (definition : Resource) :
    (placed first definition).baseType = (placed second definition).baseType := by
  rw [placed, placed, baseType_linked, baseType_linked, agreed_congr same]

end

/-! ## Findings -/

/-- Two lists of definitions lead to the same findings about names, base types and references. -/
structure SameFindings (first second : List Resource) (enums : List String) : Prop where
  /-- A definition agrees on the same base type, and a resource of the same name or none is found
  for it. -/
  bases : ∀ (position position' : ℕ) (definition : Resource), first[position]? = some definition →
    second[position']? = some definition → ∃ resource resource',
      (resolve first).value.resources[position]? = some resource
        ∧ (resolve second).value.resources[position']? = some resource'
        ∧ resource.baseType = resource'.baseType
        ∧ ((resolve first).value.baseOf? resource).map (·.name)
          = ((resolve second).value.baseOf? resource').map (·.name)
  /-- The same names have conflicting base types. -/
  conflicts : ∃ names names', names ~ names'
    ∧ (resolve first).issues.filter (·.code == .baseTypeConflict) = names.map (conflictIssue first)
    ∧ (resolve second).issues.filter (·.code == .baseTypeConflict)
      = names'.map (conflictIssue second)
  /-- As many names differ only in case. -/
  caseMismatches : ((resolve first).issues.filter (·.code == .resourceNameCaseMismatch)).length
    = ((resolve second).issues.filter (·.code == .resourceNameCaseMismatch)).length
  /-- Both have cycles of base types, or none has. -/
  cycles : (resolve first).issues.filter (·.code == .circularBaseType) = []
    ↔ (resolve second).issues.filter (·.code == .circularBaseType) = []
  /-- The same types are lacking in the definitions of the same names. -/
  references : ∃ keys keys', keys ~ keys'
    ∧ Forall₂ (Reports first enums) keys ((resolve first).value.checkReferences enums)
    ∧ Forall₂ (Reports second enums) keys' ((resolve second).value.checkReferences enums)

/-- **What is found does not depend on the order of documents.** -/
theorem sameFindings_of_perm (perm : first ~ second) (enums : List String) :
    SameFindings first second enums := by
  have same : ∀ definition, definition ∈ first ↔ definition ∈ second := fun _ => perm.mem_iff
  constructor
  case bases =>
    intro position position' definition found found'
    have resource := getElem?_resources found
    have resource' := getElem?_resources found'
    have baseType := baseType_placed_congr same definition
    refine ⟨_, _, resource, resource', baseType, ?_⟩
    rw [map_name_baseOf? (mem_of_getElem? resource), map_name_baseOf? (mem_of_getElem? resource'),
      baseType, isKnown_congr same]
  case conflicts =>
    exact ⟨_, _, conflictingNames_perm same, filter_conflicts_resolve, filter_conflicts_resolve⟩
  case caseMismatches =>
    rw [filter_caseMismatches_resolve, filter_caseMismatches_resolve,
      length_caseMismatches_congr same]
  case cycles =>
    rw [filter_issues_resolve, filter_issues_resolve, map_eq_nil_iff, map_eq_nil_iff,
      circularWalks_eq_nil_congr same]
  case references =>
    exact ⟨_, _, unresolvedKeys_perm same, forall₂_reports, forall₂_reports⟩

/-- A name with a conflict and a cycle, another one that differs in case, and a base type that is
lacking. -/
def itemDefinitions : List Resource :=
  [bareDefinition "foo.item" (some "foo.group") "1.md",
    bareDefinition "foo.item" (some "none") "2.md",
    bareDefinition "foo.group" (some "foo.item") "3.md", bareDefinition "foo.Item" none "4.md"]

/-- All kinds of findings are made in both directions, and they are the same. -/
theorem reversed_definitions_sameFindings :
    itemDefinitions ~ itemDefinitions.reverse
      ∧ SameFindings itemDefinitions itemDefinitions.reverse ["foo.color"]
      ∧ (resolve itemDefinitions).issues.map (·.code)
        = [.resourceNameCaseMismatch, .baseTypeConflict, .circularBaseType]
      ∧ ((resolve itemDefinitions).value.checkReferences ["foo.color"]).map (·.source)
        = [some "2.md"] := by
  have perm : itemDefinitions ~ itemDefinitions.reverse := (reverse_perm _).symm
  refine ⟨perm, sameFindings_of_perm perm ["foo.color"], ?_, ?_⟩
  · decide
  · rfl

end DocAudit.ResourceGraph
