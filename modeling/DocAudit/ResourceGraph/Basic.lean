import DocAudit.ResourceGraph.Order

/-!
# The resources of a set of pages

All definitions of resources in a set, with their base types agreed on and found, and the order of
their names in which base types come first.
-/

namespace DocAudit

/-- The definitions of a set in the order of the pages, the base type that each of them declares by
itself, and their names, base types first. -/
structure ResourceGraph where
  resources : List Resource
  declaredBases : List (Option String)
  sortedNames : List String
  deriving Repr

namespace ResourceGraph

/-- The known base types of the definitions of a name. -/
def knownBases (resources : List Resource) (name : String) : List String :=
  (Definitions.baseTypes resources name).filter (Definitions.isKnown resources)

/-- A cycle of base types. -/
def reportCycle (resources : List Resource) (cycle : List String) : Audit Unit :=
  let walk := " -> ".intercalate cycle
  Audit.report (Definitions.concerning resources cycle
    (.error .circularBaseType s!"Circular base type dependency: {walk}"))

/-- A resource with the position of the first definition of its base type. -/
def linked (resources : List Resource) (resource : Resource) : Resource :=
  { resource with
    base := resource.baseType.bind fun base => resources.findIdx? (·.name == base) }

/-- Brings the definitions of a set together. -/
def resolve (definitions : List Resource) : Audit ResourceGraph := do
  let names := Definitions.names definitions
  Definitions.reportCaseMismatches definitions [] names
  names.forM (Definitions.reportConflict definitions)
  let resources := definitions.map (Definitions.agreed definitions)
  let visits := Visits.ofNames (knownBases resources) names
  visits.cycles.forM (reportCycle resources)
  return { resources := resources.map (linked resources)
           declaredBases := definitions.map (·.baseType)
           sortedNames := visits.finished }

/-- The positions of all definitions, base types first. -/
def order (graph : ResourceGraph) : List Nat :=
  graph.sortedNames.flatMap (Definitions.positions graph.resources)

/-- All definitions, base types first. -/
def sorted (graph : ResourceGraph) : List Resource :=
  graph.order.filterMap (graph.resources[·]?)

/-- The definition of the base type of a resource. -/
def baseOf? (graph : ResourceGraph) (resource : Resource) : Option Resource :=
  resource.base.bind (graph.resources[·]?)

end ResourceGraph

end DocAudit
