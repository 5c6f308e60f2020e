import DocAudit.Record
import DocAudit.Toml.Value

/-!
# Records in TOML

A record is written as a table or as an array with the fields in a fixed order.  A date or time
stands for its text wherever a text is read.
-/

namespace DocAudit.Toml.Value

/-- The fields of a record in order, given their names. -/
def fields? (names : List String) : Value → Option (List (Option Value))
  | .table entries => Record.named? names entries
  | .array items => Record.positional? names.length items
  | _ => none

/-- Reads a whole record. -/
def readFields? (reader : FieldReader Value α) (names : List String) (value : Value) :
    Option α := do
  reader.run' (← value.fields? names)

/-! ## Values of fields -/

/-- A text. -/
def text? : Value → Option String
  | .string text => some text
  | .datetime text => some text
  | _ => none

/-- A list of values. -/
def items? : Value → Option (List Value)
  | .array items => some items
  | _ => none

/-- A list of texts. -/
def texts? (value : Value) : Option (List String) :=
  value.items?.bind (·.mapM text?)

/-- A truth value. -/
def bool? : Value → Option Bool
  | .boolean value => some value
  | _ => none

/-- A number below a bound. -/
def natBelow? (bound : Nat) : Value → Option Nat
  | .integer value => if 0 ≤ value && value < bound then some value.toNat else none
  | _ => none

/-- The name of a constant: a text, or the only key of a table, whose value is empty. -/
def constantName? : Value → Option String
  | .string text => some text
  | .table [(name, .array [])] => some name
  | .table [(name, .table [])] => some name
  | _ => none

end DocAudit.Toml.Value
