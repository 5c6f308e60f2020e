import DocAudit.Text.Digit
import DocAudit.Text.Uuid
import DocAudit.ValueType.Basic

/-!
# Types of literal values

Examples show values and not types.  The shape of a value tells whether it is a date, a time, a
duration or a UUID.  Each reader below takes one part of a shape from the start of a text and gives
the rest.
-/

namespace DocAudit.Literal

/-! ## Parts of shapes -/

/-- Reads exactly `count` digits. -/
def digits? : Nat → List Char → Option (List Char)
  | 0, text => some text
  | count + 1, c :: rest => if Text.isDigit c then digits? count rest else none
  | _ + 1, [] => none

/-- Reads one character. -/
def char? (c : Char) : List Char → Option (List Char)
  | x :: rest => if x = c then some rest else none
  | [] => none

/-- Reads all digits, at least one. -/
def someDigits? (text : List Char) : Option (List Char) :=
  if text.head?.any Text.isDigit then some (text.dropWhile Text.isDigit) else none

/-- Reads a part if it is there. -/
def optional (part : List Char → Option (List Char)) (text : List Char) : List Char :=
  (part text).getD text

/-- Reads a point and digits. -/
def fraction? (text : List Char) : Option (List Char) :=
  (char? '.' text).bind someDigits?

/-- Reads a year, month and day. -/
def date? (text : List Char) : Option (List Char) := do
  digits? 2 (← char? '-' (← digits? 2 (← char? '-' (← digits? 4 text))))

/-- Reads seconds with a colon before them, and perhaps a fraction of a second. -/
def seconds? (text : List Char) : Option (List Char) := do
  return optional fraction? (← digits? 2 (← char? ':' text))

/-- Reads hours and minutes, and perhaps seconds. -/
def time? (text : List Char) : Option (List Char) := do
  return optional seconds? (← digits? 2 (← char? ':' (← digits? 2 text)))

/-- Reads the offset of a time zone. -/
def zone? (text : List Char) : Option (List Char) :=
  match text with
  | 'Z' :: rest => some rest
  | sign :: rest =>
    if sign = '+' || sign = '-' then do digits? 2 (optional (char? ':') (← digits? 2 rest))
    else none
  | [] => none

/-- Reads a number and the letter of its unit. -/
def amount? (unit : Char) (text : List Char) : Option (List Char) := do
  char? unit (← someDigits? text)

/-- Reads a number of seconds, perhaps with a fraction, and the letter of seconds. -/
def secondsAmount? (text : List Char) : Option (List Char) := do
  char? 'S' (optional fraction? (← someDigits? text))

/-- Reads the time behind the days of a duration. -/
def durationTime? (text : List Char) : Option (List Char) := do
  return optional secondsAmount? (optional (amount? 'M') (optional (amount? 'H')
    (← char? 'T' text)))

/-! ## Whole shapes -/

/-- Whether a text is a date with a time, perhaps with a time zone. -/
def isDateTime (text : List Char) : Bool :=
  match (do return optional zone? (← time? (← char? 'T' (← date? text)))) with
  | some rest => rest.isEmpty
  | none => false

/-- Whether a text is a date. -/
def isDate (text : List Char) : Bool :=
  date? text == some []

/-- Whether a text is a time of day. -/
def isTimeOfDay (text : List Char) : Bool :=
  time? text == some []

/-- Whether a text is a duration.  At least one digit of it is an ASCII digit. -/
def isDuration (text : List Char) : Bool :=
  match char? 'P' (optional (char? '-') text) with
  | some rest =>
    let days := optional (amount? 'D') (optional (amount? 'W') (optional (amount? 'M')
      (optional (amount? 'Y') rest)))
    (optional durationTime? days).isEmpty && text.any Char.isDigit
  | none => false

/-- The type of a literal value, if its shape tells one. -/
def type? (value : List Char) : Option SimpleType :=
  let text := Text.trim value
  if isDateTime text then some .dateTimeOffset
  else if isDate text then some .date
  else if isTimeOfDay text then some .timeOfDay
  else if isDuration text then some .duration
  else if Text.isUuid text then some .guid
  else none

/-- The type of a string in an example. -/
def typeOfString (value : String) : ValueType :=
  match type? value.toList with
  | some type => .simple type
  | none => .string

end DocAudit.Literal
