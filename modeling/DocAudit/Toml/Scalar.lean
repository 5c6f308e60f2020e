import DocAudit.Text.PercentEncoding
import DocAudit.Toml.Value

/-!
# Numbers, dates and truth values of TOML

Everything that is written without quotes or brackets is one word: a run of letters, digits, signs,
points, colons and underscores.  What a word stands for is read off the whole word.  A date and a
time with a single space between them count as one word.
-/

namespace DocAudit.Toml

/-! ## Digits -/

/-- The value of a digit in a number system of 2 to 16 digits. -/
def digitValue? (base : Nat) (c : Char) : Option Nat :=
  (Text.hexValue? c).filter (· < base)

/-- The value of digits in a number system.  Underscores may stand between two digits; `value` is
what was read before, and `afterDigit` says whether a digit came last. -/
def digitsFrom? (base value : Nat) (afterDigit : Bool) : List Char → Option Nat
  | [] => if afterDigit then some value else none
  | '_' :: rest => if afterDigit then digitsFrom? base value false rest else none
  | c :: rest => do
    let digit ← digitValue? base c
    digitsFrom? base (value * base + digit) true rest

/-- The value of a whole word of digits. -/
def digits? (base : Nat) (word : List Char) : Option Nat :=
  digitsFrom? base 0 false word

/-- The value of decimal digits that do not start with a zero, or of a single zero. -/
def decimal? (word : List Char) : Option Nat :=
  match word with
  | '0' :: _ :: _ => none
  | _ => digits? 10 word

/-- Whether a word starts with a minus sign, and the word without its sign. -/
def signed (word : List Char) : Bool × List Char :=
  match word with
  | '-' :: rest => (true, rest)
  | '+' :: rest => (false, rest)
  | _ => (false, word)

/-! ## Numbers -/

/-- The integer that a word stands for, if it fits 64 bits. -/
def integer? (word : List Char) : Option Int :=
  let fitting (n : Nat) : Option Int := if n < 1 <<< 63 then some n else none
  match word with
  | '0' :: 'x' :: rest => (digits? 16 rest).bind fitting
  | '0' :: 'o' :: rest => (digits? 8 rest).bind fitting
  | '0' :: 'b' :: rest => (digits? 2 rest).bind fitting
  | _ =>
    let (negative, body) := signed word
    match decimal? body with
    | some n =>
      if negative then (if n ≤ 1 <<< 63 then some (-n) else none) else fitting n
    | none => none

/-- Whether a word is an exponent behind its letter. -/
def isExponent (word : List Char) : Bool :=
  (digits? 10 (signed word).2).isSome

/-- Whether a word is a floating-point number. -/
def isFloat (word : List Char) : Bool :=
  let body := (signed word).2
  let isE := fun c => c == 'e' || c == 'E'
  let mantissa := body.takeWhile (!isE ·)
  let exponent := body.dropWhile (!isE ·)
  let whole := mantissa.takeWhile (· != '.')
  let fraction := mantissa.dropWhile (· != '.')
  body == "inf".toList || body == "nan".toList ||
    ((decimal? whole).isSome &&
      (fraction.isEmpty || (digits? 10 (fraction.drop 1)).isSome) &&
      (exponent.isEmpty || isExponent (exponent.drop 1)) &&
      !(fraction.isEmpty && exponent.isEmpty))

/-! ## Dates and times -/

/-- The value of a word of exactly `count` decimal digits. -/
def fixedDigits? (count : Nat) (word : List Char) : Option Nat :=
  if word.length == count && word.all Char.isDigit then digits? 10 word else none

/-- The number of days of a month. -/
def daysInMonth (year month : Nat) : Nat :=
  if month == 2 then
    (if year % 4 == 0 && (year % 100 != 0 || year % 400 == 0) then 29 else 28)
  else if [4, 6, 9, 11].contains month then 30 else 31

/-- Whether a word of ten characters is a date. -/
def isDate (word : List Char) : Bool :=
  match fixedDigits? 4 (word.take 4), fixedDigits? 2 ((word.drop 5).take 2),
      fixedDigits? 2 (word.drop 8) with
  | some year, some month, some day =>
    word[4]? == some '-' && word[7]? == some '-' && 1 ≤ month && month ≤ 12 && 1 ≤ day &&
      day ≤ daysInMonth year month
  | _, _, _ => false

/-- Whether a word of five characters is a number of hours below 24 and of minutes below 60. -/
def isHourMinute (word : List Char) : Bool :=
  match fixedDigits? 2 (word.take 2), fixedDigits? 2 (word.drop 3) with
  | some hour, some minute => word[2]? == some ':' && hour < 24 && minute < 60
  | _, _ => false

/-- The canonical fraction of a second: nine digits at most, without zeros at the end. -/
def canonicalFraction (digits : List Char) : List Char :=
  match ((digits.take 9).reverse.dropWhile (· == '0')).reverse with
  | [] => []
  | kept => '.' :: kept

/-- The canonical text of a time at the start of a word, and the rest of the word. -/
def time? (word : List Char) : Option (List Char × List Char) :=
  let clock := word.take 8
  let rest := word.drop 8
  match fixedDigits? 2 (clock.drop 6) with
  | some second =>
    if isHourMinute (clock.take 5) && clock[5]? == some ':' && second ≤ 60 then
      match rest with
      | '.' :: more =>
        let digits := more.takeWhile Char.isDigit
        if digits.isEmpty then none
        else some (clock ++ canonicalFraction digits, more.dropWhile Char.isDigit)
      | _ => some (clock, rest)
    else none
  | none => none

/-- The canonical text of an offset from universal time, which may be missing. -/
def offset? (word : List Char) : Option (List Char) :=
  match word with
  | [] => some []
  | ['Z'] | ['z'] => some ['Z']
  | sign :: clock =>
    if (sign == '+' || sign == '-') && isHourMinute clock then
      some ((if clock == "00:00".toList then '+' else sign) :: clock)
    else none

/-- The canonical text of a date, a time or both. -/
def datetime? (word : List Char) : Option (List Char) :=
  let date := word.take 10
  if isDate date then
    match word.drop 10 with
    | [] => some date
    | separator :: rest =>
      if separator == 'T' || separator == 't' || separator == ' ' then do
        let (time, zone) ← time? rest
        return date ++ 'T' :: time ++ (← offset? zone)
      else none
  else
    match time? word with
    | some (time, []) => some time
    | _ => none

/-! ## Words -/

/-- Whether a character belongs to a word. -/
def isWordChar (c : Char) : Bool :=
  c.isAlphanum || c == '_' || c == '-' || c == '+' || c == '.' || c == ':'

/-- The word at the start of a text, and the rest. -/
def readWord (text : List Char) : List Char × List Char :=
  let word := text.takeWhile isWordChar
  let rest := text.dropWhile isWordChar
  match rest with
  | ' ' :: more =>
    let time := more.takeWhile isWordChar
    if isDate word && (time[2]? == some ':') then
      (word ++ ' ' :: time, more.dropWhile isWordChar)
    else (word, rest)
  | _ => (word, rest)

/-- The value that a word stands for. -/
def wordValue? (word : List Char) : Option Value :=
  if word == "true".toList then some (.boolean true)
  else if word == "false".toList then some (.boolean false)
  else if let some value := integer? word then some (.integer value)
  else if isFloat word then some (.float (.ofList word))
  else (datetime? word).map fun text => .datetime (.ofList text)

end DocAudit.Toml
