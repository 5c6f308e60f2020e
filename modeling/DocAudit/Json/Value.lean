import DocAudit.Json.Number

/-!
# JSON values

The members of an object keep the order in which their names first occur; a name that occurs again
changes the value in its place (`insertMember`), so the names of an object read from a text are
distinct.
-/

namespace DocAudit.Json

/-- A JSON value. -/
inductive Value where
  | null
  | bool (value : Bool)
  | number (value : Number)
  | string (value : String)
  | array (items : List Value)
  | object (members : List (String × Value))
  deriving Repr, Inhabited

namespace Value

/-- Sets a member of an object: in its place if the name is known, else at the end. -/
def insertMember (name : String) (value : Value) : List (String × Value) → List (String × Value)
  | [] => [(name, value)]
  | (known, old) :: rest =>
    if known = name then (known, value) :: rest else (known, old) :: insertMember name value rest

/-- The members of an object whose text gives these names and values. -/
def collectMembers (written : List (String × Value)) : List (String × Value) :=
  written.foldl (fun members (name, value) => insertMember name value members) []

/-- The members, if the value is an object. -/
def members? : Value → Option (List (String × Value))
  | .object members => some members
  | _ => none

/-- The text, if the value is a string. -/
def string? : Value → Option String
  | .string text => some text
  | _ => none

end Value

end DocAudit.Json
