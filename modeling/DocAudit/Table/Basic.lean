import DocAudit.Table.Kind

/-!
# Tables with their rows

A table of a page, its rows read as what its kind says they are.  Tables are kept also if they could
not be read, and remember which resources and requests took their rows.
-/

namespace DocAudit

/-- An error that a request may end with. -/
structure ErrorRow where
  code : String
  httpStatus : Option String
  description : Option String
  deriving DecidableEq, Repr

/-- A permission that a request may need. -/
structure ScopeRow where
  scope : String
  title : Option String
  description : Option String
  required : Option Bool
  deriving DecidableEq, Repr

/-- A member of an enumeration.  The namespace is missing until that of the page is known. -/
structure EnumMember where
  space : Option String
  typeName : String
  member : String
  description : Option String
  deriving DecidableEq, Repr

/-- The name of the enumeration, in the namespace if there is one and the name has no point. -/
def EnumMember.identifier (member : EnumMember) : String :=
  match member.space with
  | some space =>
    if member.typeName.toList.contains '.' then member.typeName else s!"{space}.{member.typeName}"
  | none => member.typeName

/-- The rows of a table. -/
inductive TableRows where
  | parameters (rows : List Parameter)
  | errors (rows : List ErrorRow)
  | scopes (rows : List ScopeRow)
  | members (rows : List EnumMember)
  | unknown
  deriving Repr

/-- A table of a page.  The title is that of the heading above it; `users` are the names of the
resources and requests that took its rows. -/
structure Table where
  kind : TableKind
  title : Option String
  rows : TableRows
  line : Nat
  users : List String
  deriving Repr

namespace Table

/-- The parameters in a table. -/
def parameters (table : Table) : List Parameter :=
  match table.rows with
  | .parameters rows => rows
  | _ => []

/-- The errors in a table. -/
def errors (table : Table) : List ErrorRow :=
  match table.rows with
  | .errors rows => rows
  | _ => []

/-- The members of enumerations in a table. -/
def members (table : Table) : List EnumMember :=
  match table.rows with
  | .members rows => rows
  | _ => []

/-- Whether a table has a user. -/
def isUsed (table : Table) : Bool :=
  !table.users.isEmpty

/-- Adds a user, once. -/
def addUser (table : Table) (user : String) : Table :=
  if table.users.contains user then table else { table with users := table.users ++ [user] }

end Table

end DocAudit
