import DocAudit.Issue.Audit
import DocAudit.Page.Basic
import DocAudit.Settings.Basic
import DocAudit.Text.Alphanumeric
import DocAudit.Text.Sorted

/-!
# Reconciling the parts of a page

A page says things twice: examples show properties that tables list again, and tables list the
errors and parameters of requests.  `Page.reconcile` brings the parts together.  The rows of tables
go to the only resource of the page and to its requests, enumerations are checked against the values
in examples, and tables that nothing took are reported.

Findings about a resource or request get it as their source, inside of `context`.
-/

namespace DocAudit

namespace Page

/-! ## The namespace -/

/-- Gives the members of enumerations in a table a namespace, where they have none. -/
def nameMembers (space : String) (table : Table) : Table :=
  match table.rows with
  | .members rows =>
    { table with rows := .members (rows.map fun row => { row with space := row.space <|> space }) }
  | _ => table

/-- Finds the namespace of a page: the one that its metadata declare, that of its first resource, or
the default one. -/
def resolveNamespace (settings : Settings) (page : Page) : Audit Page := do
  let inferred := page.resources.head?.bind (·.namespace?)
  let declared := (page.metadata.bind (·.space)).filter fun space =>
    !(Text.trim space.toList).isEmpty
  match page.resources.head?, declared, inferred with
  | some resource, some declared, some inferred =>
    if declared ≠ inferred then
      Audit.error .namespaceMismatch
        (s!"Page declares namespace '{declared}' but resource '{resource.name}' is in " ++
          s!"'{inferred}'")
  | _, _, _ => pure ()
  let space := declared <|> inferred <|> settings.naming.defaultNamespace
  return { page with
    space
    tables := match space with
      | some space => page.tables.map (nameMembers space)
      | none => page.tables }

/-! ## Tables of properties -/

/-- Joins a row with the property of its name, or adds it. -/
def mergeRow (resource : Resource) (row : Parameter) : Audit Resource := do
  unless resource.parameters.any (·.name == row.name) ||
      (resource.isOpen && resource.isOptional row.name) do
    let message := s!"Property '{row.name}' is documented but missing from the example"
    if row.navigable || resource.navigationProperties.contains row.name then
      Audit.report (.note .additionalPropertyDetected message)
    else Audit.warning .additionalPropertyDetected message
  return { resource with parameters := ← Parameter.mergeInto row resource.parameters }

/-- A property of an example that no row is about. -/
def reportUndocumented (rows : List Parameter) (parameter : Parameter) : Audit Unit :=
  unless rows.any (·.name == parameter.name) do
    Audit.warning .propertyMissingFromTable
      s!"Property '{parameter.name}' appears in the example but in no property table"

/-- Joins the rows of tables of properties with the properties of a resource. -/
def mergeRows (resource : Resource) (rows : List Parameter) : Audit Resource := do
  let merged ← rows.foldlM mergeRow resource
  unless merged.isTruncated do merged.parameters.forM (reportUndocumented rows)
  return merged

/-- Marks a table that has the kind of those whose rows were taken. -/
def markUser (takes : Table → Bool) (user : String) (table : Table) : Table :=
  if takes table then table.addUser user else table

/-- Gives the rows of the tables of properties to the only resource of a page. -/
def mergeResourceTables (context : Option String) (page : Page) : Audit Page :=
  let takes (table : Table) : Bool := table.kind.isOfProperties
  if !page.tables.any takes then pure page
  else
    match page.resources with
    | [] => pure page
    | [resource] => do
      let rows := (page.tables.filter takes).flatMap (·.parameters)
      let merged ← (mergeRows resource rows).within (some (IssueLog.nested context resource.name))
      return { page with
        resources := [merged]
        tables := page.tables.map (markUser takes resource.name) }
    | resources => do
      Audit.warning .multipleResourcesInDocument
        s!"{resources.length} resources on one page; property tables were not merged"
      return page

/-! ## Tables of requests -/

/-- Whether the rows of a table go to requests. -/
def isForMethods (table : Table) : Bool :=
  match table.kind with
  | .errorCodes | .pathParameters | .queryParameters | .headers | .requestBody => true
  | _ => false

/-- Gives the rows of a table to a method. -/
def applyTable (table : Table) (method : Method) : Audit Method :=
  match table.kind with
  | .errorCodes => pure { method with errors := method.errors ++ table.errors }
  | .pathParameters | .queryParameters | .headers => do
    return { method with
      parameters := ← Parameter.mergeLists method.parameters table.parameters }
  | .requestBody => do
    return { method with
      bodyParameters := ← Parameter.mergeLists method.bodyParameters table.parameters }
  | _ => pure method

/-- Gives the rows of a table to all methods. -/
def applyToAll (context : Option String) (methods : List Method) (table : Table) :
    Audit (List Method) :=
  methods.mapM fun method =>
    (applyTable table method).within (some (IssueLog.nested context method.identifier))

/-- Whether all methods of a page have one and the same route. -/
def haveOneRoute (methods : List Method) : Bool :=
  match methods with
  | [] => true
  | first :: _ => first.route?.isSome && methods.all (·.route? == first.route?)

/-- Whether it is unclear which of several methods the tables are about: the methods have different
routes, and there are several tables of one kind. -/
def isAmbiguous (methods : List Method) (tables : List Table) : Bool :=
  methods.length > 1 && !haveOneRoute methods && !decide (tables.map (·.kind)).Nodup

/-- Gives the rows of the tables of requests to the methods of a page. -/
def mergeMethodTables (context : Option String) (page : Page) : Audit Page :=
  let tables := page.tables.filter isForMethods
  if tables.isEmpty || page.methods.isEmpty then pure page
  else if isAmbiguous page.methods tables then do
    let methods := ", ".intercalate (page.methods.map (·.identifier))
    let described := ", ".intercalate
      (tables.map fun table => s!"{table.kind.name} (line {table.line})")
    Audit.warning .ambiguousTableMapping
      s!"Unable to map tables to methods. Methods: [{methods}]. Tables: [{described}]"
    return page
  else do
    let methods ← tables.foldlM (applyToAll context) page.methods
    let mark (table : Table) : Table :=
      page.methods.foldl (fun table method => markUser isForMethods method.identifier table) table
    return { page with methods, tables := page.tables.map mark }

/-! ## Enumerations -/

/-- All parameters of a page, those of resources first. -/
def allParameters (page : Page) : List Parameter :=
  page.resources.flatMap (·.parameters) ++
    page.methods.flatMap fun method => method.parameters ++ method.bodyParameters

/-- The different words of a text in lower case. -/
def distinctWords (text : String) : List String :=
  Text.sorted ((Text.wordsBy (fun c => !Text.isAlphanumeric c) text.toList).map fun word =>
    .ofList (Text.lower word))

/-- A string whose description names several members of enumerations. -/
def reportUndeclaredEnum (members : List String) (parameter : Parameter) : Audit Unit :=
  match parameter.description with
  | some description =>
    let words := distinctWords description
    let shared := words.countP members.contains
    if parameter.type.isString && words.length > 1 && shared > 1 then
      Audit.warning .possibleUndeclaredEnum
        (s!"Property '{parameter.name}' is a string but its description lists {shared} enum " ++
          "members")
    else pure ()
  | none => pure ()

/-- The different values that an example shows at once, between bars. -/
def shownValues (value : String) : List String :=
  Text.sorted (((Text.splitAt '|' value.toList).map Text.trim).filter (!·.isEmpty) |>.map .ofList)

/-- Whether one enumeration has all of some values as members. -/
def declares (members : List EnumMember) (values : List String) : Bool :=
  members.any fun known => values.all fun value => members.any fun member =>
    member.identifier == known.identifier && member.member == value

/-- A property of an example that shows several values of an unknown enumeration. -/
def reportMissingEnum (members : List EnumMember) (resource : Resource) (parameter : Parameter) :
    Audit Unit :=
  match parameter.writtenValue with
  | some value =>
    let values := shownValues value
    if values.length ≥ 2 && !declares members values then
      Audit.warning .missingEnumDeclaration
        (s!"Property '{parameter.name}' of {resource.name} shows values '{value}' but no " ++
          "enumeration declares them")
    else pure ()
  | none => pure ()

/-- Checks the parameters of a page against its enumerations. -/
def checkEnumerations (page : Page) : Audit Unit := do
  let members := page.enumMembers
  let names := Text.sorted (members.map fun member => .ofList (Text.lower member.member.toList))
  if names.length > 1 then page.allParameters.forM (reportUndeclaredEnum names)
  page.resources.forM fun resource =>
    resource.parameters.forM (reportMissingEnum members resource)

/-! ## Unused tables -/

/-- Whether a table has to be used by something. -/
def needsUser (table : Table) : Bool :=
  match table.kind with
  | .authScopes | .enumValues | .responseHeaders => false
  | _ => true

/-- A table whose rows nothing took. -/
def reportUnused (table : Table) : Audit Unit :=
  if needsUser table && !table.isUsed then
    let heading := table.title.getD "(no heading)"
    Audit.warning .unusedTable
      (s!"{table.kind.name} table under '{heading}' on line {table.line} was not merged into " ++
        "any resource or method")
  else pure ()

/-! ## All steps -/

/-- Brings the parts of a page together. -/
def reconcile (settings : Settings) (context : Option String) (page : Page) : Audit Page := do
  let page ← page.resolveNamespace settings
  let page ← page.mergeResourceTables context
  let page ← page.mergeMethodTables context
  page.checkEnumerations
  page.tables.forM reportUnused
  return page

end Page

end DocAudit
