import DocAudit.ResourceGraph.Basic
import DocAudit.Text.Split

/-!
# References to types

Base types and types of properties refer to documented types by name: to resources, enumerations, or
the one type that needs no documentation.  A name without namespace is looked for in the namespace
of the resource that refers to it, and as it is.
-/

namespace DocAudit

/-- The type of the errors in responses, which needs no documentation. -/
def builtinErrorType : String := "odata.error"

/-- A reference of a resource to a type, and what the type is for. -/
structure TypeReference where
  role : String
  name : String
  deriving DecidableEq, Repr

namespace TypeReference

/-- The references of a resource, given the base type that it declares by itself. -/
def ofResource (declaredBase : Option String) (resource : Resource) : List TypeReference :=
  declaredBase.toList.map (⟨"base type", ·⟩) ++
    resource.parameters.filterMap fun parameter =>
      parameter.type.customName.map (⟨"property type", ·⟩)

/-- The name of the type in the namespace of the resource that refers to it, if both are needed and
there. -/
def qualified (reference : TypeReference) (resource : Resource) : String :=
  match TypeName.namespace? reference.name, resource.namespace? with
  | none, some space => s!"{space}.{reference.name}"
  | _, _ => reference.name

/-- The first known name that contains a name or is contained in it, regardless of case. -/
def suggest? (known : List String) (name : String) : Option String :=
  let lowered := Text.lower name.toList
  known.find? fun candidate =>
    let other := Text.lower candidate.toList
    Text.occursIn lowered other || Text.occursIn other lowered

/-- A reference to an unknown type. -/
def unresolved (known : List String) (resource : Resource) (reference : TypeReference) : Issue :=
  let name := reference.qualified resource
  let hint := match suggest? known name with
    | some other => s!" Did you mean '{other}'?"
    | none => ""
  { Issue.error .unresolvedTypeReference
      s!"Resource '{resource.name}' references unknown {reference.role} '{name}'.{hint}" with
    source := some resource.file }

end TypeReference

namespace ResourceGraph

/-- The names that references may have, given the names of enumerations. -/
def knownNames (graph : ResourceGraph) (enums : List String) : List String :=
  Text.sorted (Definitions.names graph.resources ++ enums ++ [builtinErrorType])

/-- All references of a set, each with the resource that refers. -/
def references (graph : ResourceGraph) : List (Resource × TypeReference) :=
  (graph.resources.zip graph.declaredBases).flatMap fun (resource, declaredBase) =>
    (TypeReference.ofResource declaredBase resource).map fun reference => (resource, reference)

/-- Whether a reference is to a known type. -/
def isResolved (known : List String) (resource : Resource) (reference : TypeReference) : Bool :=
  known.contains (reference.qualified resource) || known.contains reference.name

/-- Findings for references to unknown types, one for each name of a resource and qualified name of
a type; `reported` holds the pairs that were met before. -/
def reportUnresolved (known : List String) (reported : List (String × String)) :
    List (Resource × TypeReference) → List Issue
  | [] => []
  | (resource, reference) :: rest =>
    let key := (resource.name, reference.qualified resource)
    if isResolved known resource reference || reported.contains key then
      reportUnresolved known reported rest
    else
      reference.unresolved known resource :: reportUnresolved known (key :: reported) rest

/-- Checks all references of a set, given the names of enumerations. -/
def checkReferences (graph : ResourceGraph) (enums : List String) : List Issue :=
  reportUnresolved (graph.knownNames enums) [] graph.references

end ResourceGraph

end DocAudit
