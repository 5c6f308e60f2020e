import DocAudit.Json.Reader
import DocAudit.Record

/-!
# Records in JSON

A record is written as an object, whose members are its fields in any order, or as an array with the
fields in a fixed order.  In an object every field may have several names, must not be given twice,
and members that are no fields are passed over.  In an array the last fields may be missing.
-/

namespace DocAudit.Json.Written

/-- The only value among members with one of some names, `none` inside if there is no value. -/
def onlyMember? (names : List String) (members : List (String × Written)) :
    Option (Option Written) :=
  match members.filter fun member => names.contains member.1 with
  | [] => some none
  | [(_, value)] => some (some value)
  | _ => none

/-- The fields of a record in order, given all names of each. -/
def fields? (names : List (List String)) : Written → Option (List (Option Written))
  | .object members => do
    let named ← members.mapM fun (name, value) => do return (← name, value)
    names.mapM (onlyMember? · named)
  | .array items => Record.positional? names.length items
  | _ => none

/-- Reads a whole record. -/
def readFields? (reader : FieldReader Written α) (names : List (List String)) (written : Written) :
    Option α := do
  reader.run' (← written.fields? names)

/-! ## Values of fields -/

/-- A text, or nothing. -/
def optionalText? : Written → Option (Option String)
  | .null => some none
  | .string (some text) => some (some text)
  | _ => none

/-- A text. -/
def text? : Written → Option String
  | .string text => text
  | _ => none

/-- A truth value. -/
def bool? : Written → Option Bool
  | .bool value => some value
  | _ => none

/-- A list of texts. -/
def texts? : Written → Option (List String)
  | .array items => items.mapM text?
  | _ => none

/-- A list of texts, nothing in place of the empty list, or a single text that `split` turns into a
list. -/
def textsOr? (split : String → List String) : Written → Option (List String)
  | .null => some []
  | .string (some text) => some (split text)
  | other => other.texts?

end DocAudit.Json.Written
