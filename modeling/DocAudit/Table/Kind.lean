import DocAudit.Page.Block
import DocAudit.Text.Lowercase
import DocAudit.ValueType.Basic

/-!
# What a table is about

The heading above a table says what it is about: a list of rules goes from titles to kinds.  Where
no rule applies, the columns of the table decide; a column has several possible headers.
-/

namespace DocAudit

/-- The kinds of tables. -/
inductive TableKind where
  | unknown
  | errorCodes
  | pathParameters
  | queryParameters
  | headers
  | responseHeaders
  | requestBody
  | properties
  | navigationProperties
  | authScopes
  | enumValues
  deriving DecidableEq, Repr

namespace TableKind

/-- The word for a kind. -/
def name : TableKind → String
  | unknown => "unknown"
  | errorCodes => "error-codes"
  | pathParameters => "path-parameters"
  | queryParameters => "query-parameters"
  | headers => "headers"
  | responseHeaders => "response-headers"
  | requestBody => "request-body"
  | properties => "properties"
  | navigationProperties => "navigation-properties"
  | authScopes => "auth-scopes"
  | enumValues => "enum-values"

/-- All kinds. -/
def all : List TableKind :=
  [unknown, errorCodes, pathParameters, queryParameters, headers, responseHeaders, requestBody,
   properties, navigationProperties, authScopes, enumValues]

/-- The kind with a name. -/
def ofName? (name : String) : Option TableKind :=
  all.find? (·.name == name)

/-- Every kind is found by its name. -/
theorem ofName?_name (kind : TableKind) : ofName? kind.name = some kind := by
  cases kind <;> decide

/-- Where the parameters in a table are given, if it lists parameters. -/
def location? : TableKind → Option Location
  | pathParameters => some .path
  | queryParameters => some .queryString
  | headers | responseHeaders => some .header
  | requestBody | properties | navigationProperties => some .jsonObject
  | unknown | errorCodes | authScopes | enumValues => none

/-- Whether the rows of a table are properties of a resource. -/
def isOfProperties : TableKind → Bool
  | properties | navigationProperties => true
  | _ => false

end TableKind

/-! ## Rules -/

/-- A rule from titles of headings to a kind of tables.  The pattern is a part of the title or, if
`exact`, all of it; case does not count. -/
structure HeadingRule where
  pattern : String
  kind : TableKind
  exact : Bool
  deriving DecidableEq, Repr

/-- Whether a rule applies to a title in lower case. -/
def HeadingRule.appliesTo (rule : HeadingRule) (title : List Char) : Bool :=
  let pattern := Text.lower (Text.trim rule.pattern.toList)
  if rule.exact then Text.trim title == pattern else Text.occursIn pattern title

/-- The possible headers of each column. -/
structure ColumnWords where
  name : List String
  type : List String
  description : List String
  required : List String
  errorCode : List String
  httpStatus : List String
  scope : List String
  scopeTitle : List String
  member : List String
  value : List String
  header : List String
  deriving DecidableEq, Repr

/-- How tables are read: the rules in the order in which they are tried, and the headers of
columns. -/
structure TableRules where
  headings : List HeadingRule
  columns : ColumnWords
  deriving DecidableEq, Repr

namespace TableRules

/-- The kind of a table by its columns alone. -/
def kindByColumns (rules : TableRules) (shape : TableShape) : TableKind :=
  let has (words : ColumnWords → List String) : Bool := (shape.column? (words rules.columns)).isSome
  if has (·.errorCode) && (has (·.httpStatus) || has (·.description)) then .errorCodes
  else if has (·.scope) then .authScopes
  else if has (·.member) then .enumValues
  else if has (·.header) then .headers
  else if has (·.name) && has (·.type) then .properties
  else .unknown

/-- The kind that a rule gives to tables below a heading. -/
def kindByTitle? (rules : TableRules) (title : String) : Option TableKind :=
  let lowered := Text.lower title.toList
  (rules.headings.find? (·.appliesTo lowered)).map (·.kind)

/-- The kind of a table below headings with these titles, the nearest first. -/
def kindOf (rules : TableRules) (shape : TableShape) (titles : List String) : TableKind :=
  (titles.head?.bind rules.kindByTitle?).getD (rules.kindByColumns shape)

end TableRules

end DocAudit
