import DocAudit.ResourceGraph.Reference
import DocAudit.Proofs.ResourceGraph.Definitions

/-!
# Checked references

Checking goes through the references once and remembers what it has reported.  Put differently, it
takes the references to unknown types (`flagged`) and writes an issue for the first of each resource
and qualified name (`checkReferences_eq`).  A reference is to a known type if its name is declared,
as it is or in the namespace of the resource (`Recognized`).
-/

namespace DocAudit.ResourceGraph

open Definitions

variable {definitions : List Resource} {enums : List String} {name : String} {resource : Resource}

/-! ## Known names -/

/-- What needs no finding when it is referred to: a resource, an enumeration, or the type that is
always there. -/
def Declared (definitions : List Resource) (enums : List String) (name : String) : Prop :=
  (∃ definition ∈ definitions, definition.name = name) ∨ name ∈ enums ∨ name = builtinErrorType

lemma mem_knownNames :
    name ∈ (resolve definitions).value.knownNames enums ↔ Declared definitions enums name := by
  simp only [knownNames, Text.mem_sorted, List.mem_append, List.mem_singleton, mem_names,
    exists_resource_iff, Declared, or_assoc]

/-- A reference may go by its name in the namespace of the resource, or by its name as it is. -/
def Recognized (definitions : List Resource) (enums : List String) (resource : Resource)
    (reference : TypeReference) : Prop :=
  Declared definitions enums (reference.qualified resource)
    ∨ Declared definitions enums reference.name

lemma isResolved_iff {reference : TypeReference} :
    isResolved ((resolve definitions).value.knownNames enums) resource reference = true ↔
      Recognized definitions enums resource reference := by
  simp only [isResolved, Bool.or_eq_true, List.contains_iff_mem, mem_knownNames, Recognized]

/-! ## Issues -/

/-- What a reference is reported as: the name of the resource, and the type in the namespace of the
resource. -/
def reportKey (entry : Resource × TypeReference) : String × String :=
  (entry.1.name, entry.2.qualified entry.1)

/-- The references to unknown types. -/
def flagged (graph : ResourceGraph) (enums : List String) : List (Resource × TypeReference) :=
  graph.references.filter fun entry => !isResolved (graph.knownNames enums) entry.1 entry.2

/-- Whether a reference gets an issue, given the keys that were met before. -/
def isNews (known : List String) (reported : List (String × String))
    (entry : Resource × TypeReference) : Bool :=
  !isResolved known entry.1 entry.2 && !reported.contains (reportKey entry)

lemma reportUnresolved_cons (known : List String) (reported : List (String × String))
    (first : Resource × TypeReference) (rest : List (Resource × TypeReference)) :
    reportUnresolved known reported (first :: rest) =
      if isNews known reported first then
        first.2.unresolved known first.1 :: reportUnresolved known
          (reportKey first :: reported) rest
      else reportUnresolved known reported rest := by
  rw [reportUnresolved, isNews, ← Bool.not_or, reportKey]
  cases isResolved known first.1 first.2
      || reported.contains (first.1.name, first.2.qualified first.1) <;> rfl

/-- Once an issue is written, nothing with the same key is news. -/
lemma filter_isNews_cons (known : List String) (reported : List (String × String))
    (first : Resource × TypeReference) (rest : List (Resource × TypeReference)) :
    rest.filter (isNews known (reportKey first :: reported))
      = (rest.filter (isNews known reported)).filter
          fun entry => (reportKey entry == reportKey first) = false := by
  rw [List.filter_filter]
  refine List.filter_congr fun entry _ => ?_
  rw [isNews, isNews, List.contains_cons]
  cases reportKey entry == reportKey first <;> simp

/-- The issues are about the references that are news, the first of each key. -/
lemma reportUnresolved_eq (known : List String) (reported : List (String × String))
    (references : List (Resource × TypeReference)) :
    reportUnresolved known reported references
      = ((references.filter (isNews known reported)).eraseDupsBy
          fun a b => reportKey a == reportKey b).map fun entry =>
            entry.2.unresolved known entry.1 := by
  induction references generalizing reported with
  | nil => rfl
  | cons first rest ih =>
      rw [reportUnresolved_cons]
      by_cases news : isNews known reported first
      · rw [if_pos news, List.filter_cons_of_pos news, List.eraseDupsBy_cons, List.map_cons, ih,
          filter_isNews_cons]
      · rw [if_neg news, List.filter_cons_of_neg news, ih]

/-- **The issues of a check are about the flagged references,** one for each resource and type. -/
lemma checkReferences_eq (graph : ResourceGraph) (enums : List String) :
    graph.checkReferences enums
      = ((graph.flagged enums).eraseDupsBy fun a b => reportKey a == reportKey b).map
          fun entry => entry.2.unresolved (graph.knownNames enums) entry.1 := by
  have atStart : isNews (graph.knownNames enums) []
      = fun entry => !isResolved (graph.knownNames enums) entry.1 entry.2 := by
    funext entry
    simp [isNews]
  rw [checkReferences, reportUnresolved_eq, atStart, flagged]

/-! ## References of properties -/

/-- Every property with a named type makes a reference. -/
lemma property_mem_references (mem : resource ∈ (resolve definitions).value.resources)
    {parameter : Parameter} (isProperty : parameter ∈ resource.parameters)
    (named : parameter.type.customName = some name) :
    (resource, ⟨"property type", name⟩) ∈ (resolve definitions).value.references := by
  have aligned : (resolve definitions).value.declaredBases.length
      = (resolve definitions).value.resources.length := by
    simp [resolve]
  obtain ⟨position, inside, rfl⟩ := List.mem_iff_getElem.1 mem
  have paired := List.getElem_mem (l := (resolve definitions).value.resources.zip
    (resolve definitions).value.declaredBases) (n := position) (by simpa [aligned] using inside)
  rw [List.getElem_zip] at paired
  refine List.mem_flatMap.2 ⟨_, paired, List.mem_map_of_mem ?_⟩
  refine List.mem_append_right _ (List.mem_filterMap.2 ⟨parameter, isProperty, ?_⟩)
  rw [named, Option.map_some]

/-- A property of a resource is one of the references to unknown types. -/
def FlagsProperty (graph : ResourceGraph) (enums : List String) (resource : Resource)
    (parameter : Parameter) : Prop :=
  ∃ name, parameter.type.customName = some name
    ∧ (resource, ⟨"property type", name⟩) ∈ graph.flagged enums

/-- Nothing is found about a property if its type has no name or one that is recognized. -/
lemma not_flagsProperty_iff (mem : resource ∈ (resolve definitions).value.resources)
    {parameter : Parameter} (isProperty : parameter ∈ resource.parameters) :
    ¬ FlagsProperty (resolve definitions).value enums resource parameter ↔
      ∀ name, parameter.type.customName = some name →
        Recognized definitions enums resource ⟨"property type", name⟩ := by
  simp only [FlagsProperty, not_exists, not_and]
  refine forall₂_congr fun name named => ?_
  rw [flagged, List.mem_filter, ← isResolved_iff]
  simp [property_mem_references mem isProperty named]

end DocAudit.ResourceGraph
