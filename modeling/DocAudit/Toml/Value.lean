/-!
# TOML values

A table is a list of keys with their values; the order of the keys has no meaning.  `overlay` lays
one value over another: tables are joined key by key, and everything else is replaced as a whole.
-/

namespace DocAudit.Toml

/-- A TOML value.  Of a floating-point number the text is kept, and of a date or time its canonical
text. -/
inductive Value where
  | string (text : String)
  | integer (value : Int)
  | float (text : String)
  | boolean (value : Bool)
  | datetime (text : String)
  | array (items : List Value)
  | table (entries : List (String × Value))
  deriving Repr, Inhabited

namespace Value

/-- The value at a key of a table. -/
def get? (key : String) : Value → Option Value
  | .table entries => entries.lookup key
  | _ => none

/-- The value at the end of a path of keys. -/
def at? : List String → Value → Option Value
  | [], value => some value
  | key :: path, value => (value.get? key).bind (at? path)

/-- Whether a value is a table. -/
def isTable : Value → Bool
  | .table _ => true
  | _ => false

/-- A table with the value at a key set, in the place of the old one if there is one. -/
def setEntry (key : String) (value : Value) : List (String × Value) → List (String × Value)
  | [] => [(key, value)]
  | (known, old) :: rest =>
    if known = key then (key, value) :: rest else (known, old) :: setEntry key value rest

mutual

/-- Lays `upper` over `base`: two tables are joined, and in any other case `upper` counts alone. -/
def overlay (base upper : Value) : Value :=
  match upper with
  | .table entries =>
    match base with
    | .table baseEntries => .table (overlayEntries baseEntries entries)
    | _ => .table entries
  | other => other

/-- Lays the entries of a table over those of another one, one after the other. -/
def overlayEntries (base : List (String × Value)) : List (String × Value) → List (String × Value)
  | [] => base
  | (key, value) :: rest =>
    let joined :=
      match base.lookup key with
      | some old => overlay old value
      | none => value
    overlayEntries (setEntry key joined base) rest

end

end Value

end DocAudit.Toml
