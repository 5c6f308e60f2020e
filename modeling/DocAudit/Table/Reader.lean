import DocAudit.Issue.Audit
import DocAudit.Table.Basic
import DocAudit.ValueType.Description

/-!
# Reading the rows of a table

Every kind of table has a key column.  A table without it cannot be read; a row whose cell there is
empty is no row.  All other columns may be missing, and so may cells at the end of a row.
-/

namespace DocAudit.Table

/-! ## Cells -/

/-- A cell as it is written, empty if there is none. -/
def cell (row : List String) (column : Option Nat) : String :=
  (column.bind (row[·]?)).getD ""

/-- What a cell says, unless it says nothing. -/
def content? (row : List String) (column : Option Nat) : Option String :=
  let content := cellContent (cell row column)
  if content.isEmpty then none else some content

/-- The rows of a table with something in a column, each with what it says there. -/
def keyedRows (shape : TableShape) (column : Nat) : List (String × List String) :=
  shape.rows.filterMap fun row => (content? row (some column)).map fun key => (key, row)

/-- What a cell of the column `Required` says. -/
def flag? (content : String) : Option Bool :=
  let lowered := String.ofList (Text.lower content.toList)
  if ["yes", "true", "required", "y"].contains lowered then some true
  else if ["no", "false", "optional", "n"].contains lowered then some false
  else none

/-- What a description says at its start about whether something is required. -/
def requiredByDescription? (description : String) : Option Bool :=
  let lowered := Text.lower (Text.trimStart description.toList)
  let starts (word : String) : Bool := word.toList.isPrefixOf lowered
  if starts "required." || starts "required " || lowered == "required".toList then some true
  else if starts "optional" then some false
  else none

/-- Whether a row is about something required, by its column or its description. -/
def required? (row : List String) (column : Option Nat) (description : Option String) :
    Option Bool :=
  (column.bind fun column => flag? (cellContent (cell row (some column)))) <|>
    description.bind requiredByDescription?

/-! ## Rows -/

/-- The parameter in a row. -/
def parameterOf (naming : TypeNaming) (columns : ColumnWords) (shape : TableShape)
    (kind : TableKind) (key : String) (row : List String) : Audit Parameter := do
  let typeText := cell row (shape.column? columns.type)
  let type ←
    if (cellContent typeText).isEmpty then pure .string
    else TypeDescription.readIn naming typeText false none
  let description := content? row (shape.column? columns.description)
  let required := required? row (shape.column? columns.required) description
  let written := Text.trim typeText.toList
  return { Parameter.ofType key type (kind.location?.getD .jsonObject) with
    description
    required
    optional := required.map (!·)
    writtenValue := if written.isEmpty then none else some (.ofList written)
    navigable := kind == .navigationProperties }

/-- The error in a row. -/
def errorOf (columns : ColumnWords) (shape : TableShape) (key : String) (row : List String) :
    ErrorRow :=
  { code := key
    httpStatus := content? row (shape.column? columns.httpStatus)
    description := content? row (shape.column? columns.description) }

/-- The permission in a row. -/
def scopeOf (columns : ColumnWords) (shape : TableShape) (key : String) (row : List String) :
    ScopeRow :=
  let description := content? row (shape.column? columns.description)
  { scope := key
    title := content? row (shape.column? columns.scopeTitle)
    description
    required := required? row (shape.column? columns.required) description }

/-- A text without the words at its end that say that it names an enumeration.  At most `bound` are
taken off. -/
def withoutEnumWords : Nat → List Char → List Char
  | 0, text => text
  | bound + 1, text =>
    match [" values", " enum", " enumeration"].findSome? fun word =>
        Text.dropEndIgnoringAsciiCase? word.toList text with
    | some rest => withoutEnumWords bound (Text.trimEnd rest)
    | none => text

/-- The name of the enumeration that a heading is about. -/
def enumName (heading : String) : String :=
  let text := bareCell heading.toList
  .ofList (withoutEnumWords text.length (Text.trim text))

/-! ## Tables -/

/-- The key column of tables of a kind. -/
def keyColumn? (columns : ColumnWords) (shape : TableShape) (kind : TableKind) : Option Nat :=
  let column (words : ColumnWords → List String) := shape.column? (words columns)
  match kind with
  | .unknown => none
  | .errorCodes => column (·.errorCode)
  | .authScopes => column (·.scope) <|> column (·.name)
  | .enumValues => column (·.member) <|> column (·.value) <|> column (·.name)
  | .headers | .responseHeaders => column (·.header) <|> column (·.name)
  | _ => column (·.name)

/-- What is said of a table without its key column. -/
def missingKeyColumn (kind : TableKind) (line : Nat) : String :=
  match kind with
  | .errorCodes => s!"Error table on line {line} has no error code column"
  | .authScopes => s!"Permissions table on line {line} has no scope column"
  | .enumValues => s!"Enumeration table on line {line} has no member column"
  | _ => s!"{kind.name} table on line {line} has no name column"

/-- The rows of a table of a kind with its key column. -/
def readRows (naming : TypeNaming) (columns : ColumnWords) (shape : TableShape)
    (titles : List String) (line : Nat) (kind : TableKind) (column : Nat) : Audit TableRows :=
  let rows := keyedRows shape column
  match kind with
  | .unknown => pure .unknown
  | .errorCodes => pure (.errors (rows.map fun (key, row) => errorOf columns shape key row))
  | .authScopes => pure (.scopes (rows.map fun (key, row) => scopeOf columns shape key row))
  | .enumValues =>
    match titles.head? with
    | some title =>
      pure (.members (rows.map fun (key, row) =>
        { space := none
          typeName := enumName title
          member := key
          description := content? row (shape.column? columns.description) }))
    | none => do
      Audit.error .tableParseError
        s!"Enumeration table on line {line} has no heading naming its type"
      return .unknown
  | _ => do
    return .parameters (← rows.mapM fun (key, row) => parameterOf naming columns shape kind key row)

/-- The rows of a table of a kind. -/
def rowsOf (naming : TypeNaming) (columns : ColumnWords) (shape : TableShape)
    (titles : List String) (line : Nat) (kind : TableKind) : Audit TableRows :=
  if kind = .unknown then do
    let headers := ", ".intercalate shape.headers
    Audit.report (.note .unrecognizedTable
      s!"Table on line {line} with columns [{headers}] was not recognized")
    return .unknown
  else
    match keyColumn? columns shape kind with
    | some column => readRows naming columns shape titles line kind column
    | none => do
      Audit.error .tableParseError (missingKeyColumn kind line)
      return .unknown

/-- Reads a table below headings with these titles, the nearest first. -/
def read (naming : TypeNaming) (rules : TableRules) (shape : TableShape) (titles : List String)
    (line : Nat) : Audit Table := do
  let kind := rules.kindOf shape titles
  return { kind
           title := titles.head?
           rows := ← rowsOf naming rules.columns shape titles line kind
           line
           users := [] }

end DocAudit.Table
