/-!
# Reading records

A record in a data format is a list of fields.  Once its fields are brought into a fixed order, each
a value or missing, a `FieldReader` reads them one after the other.
-/

namespace DocAudit

/-- A reader of the next fields of a record; `ν` is the type of values. -/
abbrev FieldReader (ν : Type) := StateT (List (Option ν)) Option

namespace FieldReader

/-- Reads the next field, which has a default if it is missing. -/
def field (default : α) (read? : ν → Option α) : FieldReader ν α := fun
  | some value :: rest => (read? value).map (·, rest)
  | none :: rest => some (default, rest)
  | [] => none

/-- Reads the next field, which must not be missing. -/
def requiredField (read? : ν → Option α) : FieldReader ν α := fun
  | some value :: rest => (read? value).map (·, rest)
  | _ => none

end FieldReader

namespace Record

/-- The fields of a record that lists their values in order; the last ones may be missing. -/
def positional? (count : Nat) (values : List ν) : Option (List (Option ν)) :=
  if values.length ≤ count then
    some (values.map some ++ List.replicate (count - values.length) none)
  else none

/-- The fields of a record that gives their values by name and knows no other names. -/
def named? (names : List String) (entries : List (String × ν)) : Option (List (Option ν)) :=
  if entries.all fun entry => names.contains entry.1
    then some (names.map fun name => entries.lookup name)
  else none

end Record

end DocAudit
