import DocAudit.Json.Value

/-!
# Writing JSON

Values are written over several lines: each item and each member on a line of its own, two spaces
deeper than the array or object around it.
-/

namespace DocAudit.Json

/-- One hexadecimal digit. -/
def hexDigit (n : Nat) : Char :=
  Nat.digitChar n

/-- A character inside a string.  Quotes, backslashes and control characters are escaped. -/
def writtenChar (c : Char) : List Char :=
  match c with
  | '"' => ['\\', '"']
  | '\\' => ['\\', '\\']
  | '\x08' => ['\\', 'b']
  | '\x0c' => ['\\', 'f']
  | '\n' => ['\\', 'n']
  | '\r' => ['\\', 'r']
  | '\t' => ['\\', 't']
  | _ =>
    if c.toNat < 0x20 then
      ['\\', 'u', '0', '0', hexDigit (c.toNat / 16), hexDigit (c.toNat % 16)]
    else [c]

/-- A string with its quotes. -/
def writtenString (text : String) : String :=
  "\"" ++ .ofList (text.toList.flatMap writtenChar) ++ "\""

/-- A line break and the indentation of a depth. -/
def lineBreak (depth : Nat) : String :=
  .ofList ('\n' :: List.replicate (2 * depth) ' ')

/-- The parts of an array or object between its brackets, at a depth. -/
def enclose (opening closing : String) (depth : Nat) (parts : List String) : String :=
  if parts.isEmpty then opening ++ closing
  else
    opening ++ String.intercalate "," (parts.map (lineBreak (depth + 1) ++ ·)) ++
      lineBreak depth ++ closing

mutual

/-- The text of a value that stands at a depth. -/
def Value.writtenAt (depth : Nat) : Value → String
  | .null => "null"
  | .bool value => if value then "true" else "false"
  | .number value => value.text
  | .string text => writtenString text
  | .array items => enclose "[" "]" depth (Value.writtenItems (depth + 1) items)
  | .object members => enclose "\x7b" "\x7d" depth (Value.writtenMembers (depth + 1) members)

/-- The texts of the items of an array. -/
def Value.writtenItems (depth : Nat) : List Value → List String
  | [] => []
  | item :: rest => item.writtenAt depth :: writtenItems depth rest

/-- The texts of the members of an object. -/
def Value.writtenMembers (depth : Nat) : List (String × Value) → List String
  | [] => []
  | (name, value) :: rest =>
    (writtenString name ++ ": " ++ value.writtenAt depth) :: writtenMembers depth rest

end

/-- The text of a value. -/
def Value.written (value : Value) : String :=
  value.writtenAt 0

end DocAudit.Json
