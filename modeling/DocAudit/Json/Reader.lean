import DocAudit.Json.Token
import DocAudit.Json.Value

/-!
# Reading JSON

A text is read in two steps.  `Written.read?` finds its structure: every number and string in it is
well formed, but may have no value, such as a number that is too large.  `Written.value?` finds its
value, for which every part needs one and arrays and objects must not be nested too deeply.  A
reader of certain members of an object needs the values of these members only.
-/

namespace DocAudit.Json

/-- A JSON text by its structure.  A number or string that has no value is `none`. -/
inductive Written where
  | null
  | bool (value : Bool)
  | number (value : Option Number)
  | string (value : Option String)
  | array (items : List Written)
  | object (members : List (Option String × Written))
  deriving Repr, Inhabited

namespace Written

/-! ## Structure -/

/-- An array or object whose end is still to come: its latest part first and, for an object, the
name of the member whose value comes next. -/
inductive Unfinished where
  | array (items : List Written)
  | object (members : List (Option String × Written))
  | member (members : List (Option String × Written)) (name : Option String)

/-- What may come next in a text. -/
inductive Expecting where
  /-- a value -/
  | value
  /-- a value, or the end of an array that has no items yet -/
  | firstItem
  /-- a comma or the end of the innermost array or object -/
  | separator
  /-- the name of a member -/
  | name
  /-- the name of a member, or the end of an object that has no members yet -/
  | firstName
  /-- the colon behind a name -/
  | colon
  /-- nothing more -/
  | finish

/-- The state of reading: what may come next, the unfinished arrays and objects from the innermost
outwards, and the value once it is complete. -/
structure Reading where
  expecting : Expecting
  unfinished : List Unfinished
  result : Option Written

/-- Puts a complete value where it belongs. -/
def Reading.put (value : Written) : List Unfinished → Option Reading
  | [] => some ⟨.finish, [], some value⟩
  | .array items :: outer => some ⟨.separator, .array (value :: items) :: outer, none⟩
  | .member members name :: outer =>
    some ⟨.separator, .object ((name, value) :: members) :: outer, none⟩
  | .object _ :: _ => none

/-- The text that the units of a string stand for. -/
def unitsText (units : List StringUnit) : Option String :=
  (StringUnit.text? units).map String.ofList

/-- Reads one token where a value is expected. -/
def Reading.startValue (unfinished : List Unfinished) : Token → Option Reading
  | .null => put .null unfinished
  | .bool value => put (.bool value) unfinished
  | .number text => put (.number (Number.ofText? text)) unfinished
  | .string units => put (.string (unitsText units)) unfinished
  | .openBracket => some ⟨.firstItem, .array [] :: unfinished, none⟩
  | .openBrace => some ⟨.firstName, .object [] :: unfinished, none⟩
  | _ => none

/-- Reads one token. -/
def Reading.step (reading : Reading) (token : Token) : Option Reading :=
  match reading.expecting, token, reading.unfinished with
  | .firstItem, .closeBracket, .array [] :: outer => put (.array []) outer
  | .firstItem, token, unfinished => startValue unfinished token
  | .value, token, unfinished => startValue unfinished token
  | .separator, .comma, .array items :: outer => some ⟨.value, .array items :: outer, none⟩
  | .separator, .closeBracket, .array items :: outer => put (.array items.reverse) outer
  | .separator, .comma, .object members :: outer => some ⟨.name, .object members :: outer, none⟩
  | .separator, .closeBrace, .object members :: outer => put (.object members.reverse) outer
  | .firstName, .closeBrace, .object [] :: outer => put (.object []) outer
  | .firstName, .string units, .object members :: outer
  | .name, .string units, .object members :: outer =>
    some ⟨.colon, .member members (unitsText units) :: outer, none⟩
  | .colon, .colon, unfinished => some ⟨.value, unfinished, none⟩
  | _, _, _ => none

/-- The structure of a text, if it is a JSON text. -/
def read? (text : List Char) : Option Written := do
  let tokens ← tokens? text
  let reading ← tokens.foldlM Reading.step ⟨.value, [], none⟩
  reading.result

/-! ## Values -/

/-- Arrays and objects may be nested this deeply. -/
def maxDepth : Nat := 127

mutual

/-- How deeply arrays and objects are nested. -/
def depth : Written → Nat
  | .array items => depthOfItems items + 1
  | .object members => depthOfMembers members + 1
  | _ => 0

/-- The greatest depth of the items of an array. -/
def depthOfItems : List Written → Nat
  | [] => 0
  | item :: rest => max item.depth (depthOfItems rest)

/-- The greatest depth of the members of an object. -/
def depthOfMembers : List (Option String × Written) → Nat
  | [] => 0
  | (_, value) :: rest => max value.depth (depthOfMembers rest)

end

mutual

/-- The value of a text, if all its parts have one. -/
def evaluate? : Written → Option Value
  | .null => some .null
  | .bool value => some (.bool value)
  | .number value => value.map .number
  | .string value => value.map .string
  | .array items => (evaluateItems? items).map .array
  | .object members => (evaluateMembers? members).map fun written =>
      .object (Value.collectMembers written)

/-- The values of the items of an array. -/
def evaluateItems? : List Written → Option (List Value)
  | [] => some []
  | item :: rest => do return (← item.evaluate?) :: (← evaluateItems? rest)

/-- The names and values of the members of an object, as written. -/
def evaluateMembers? : List (Option String × Written) → Option (List (String × Value))
  | [] => some []
  | (name, value) :: rest => do
    return (← name, ← value.evaluate?) :: (← evaluateMembers? rest)

end

/-- The value of a text that is not nested too deeply. -/
def value? (written : Written) : Option Value :=
  if written.depth ≤ maxDepth then written.evaluate? else none

end Written

/-- The value of a JSON text. -/
def Value.read? (text : List Char) : Option Value := do
  (← Written.read? text).value?

end DocAudit.Json
