import DocAudit.Json.Number
import DocAudit.Text.PercentEncoding

/-!
# The tokens of a JSON text

A JSON text is first cut into tokens.  Strings keep their `\u` escapes as numbers here: whether two
of them form one character, and whether one stands alone that may not, is asked only of strings
whose value is needed (`StringUnit.text?`).
-/

namespace DocAudit.Json

/-- A part of a string: a character, or the number of a `\u` escape. -/
inductive StringUnit where
  | char (c : Char)
  | code (n : Nat)
  deriving DecidableEq, Repr

/-- A token of a JSON text. -/
inductive Token where
  | openBracket
  | closeBracket
  | openBrace
  | closeBrace
  | comma
  | colon
  | null
  | bool (value : Bool)
  | number (text : NumberText)
  | string (units : List StringUnit)
  deriving Repr

/-! ## Strings -/

/-- The characters of a string.  Two escapes that form a surrogate pair are one character; an escape
that is half of a pair must not stand alone. -/
def StringUnit.text? : List StringUnit → Option (List Char)
  | [] => some []
  | .char c :: rest => (text? rest).map (c :: ·)
  | .code n :: rest =>
    if 0xDC00 ≤ n && n ≤ 0xDFFF then none
    else if 0xD800 ≤ n && n ≤ 0xDBFF then
      match rest with
      | .code low :: rest =>
        if 0xDC00 ≤ low && low ≤ 0xDFFF then
          (text? rest).map (Char.ofNat ((n - 0xD800) * 0x400 + (low - 0xDC00) + 0x10000) :: ·)
        else none
      | _ => none
    else (text? rest).map (Char.ofNat n :: ·)

/-- The character that a one-letter escape stands for. -/
def escaped? : Char → Option Char
  | '"' => some '"'
  | '\\' => some '\\'
  | '/' => some '/'
  | 'b' => some '\x08'
  | 'f' => some '\x0c'
  | 'n' => some '\n'
  | 'r' => some '\r'
  | 't' => some '\t'
  | _ => none

/-- The number that four hexadecimal digits stand for. -/
def hexNumber? (a b c d : Char) : Option Nat := do
  let a ← Text.hexValue? a
  let b ← Text.hexValue? b
  let c ← Text.hexValue? c
  let d ← Text.hexValue? d
  return ((a * 16 + b) * 16 + c) * 16 + d

/-- Reads a string behind its opening quote; also counts the characters read, the closing quote
included. -/
def readString? : List Char → Option (List StringUnit × Nat)
  | [] => none
  | '"' :: _ => some ([], 1)
  | '\\' :: 'u' :: a :: b :: c :: d :: rest => do
    let n ← hexNumber? a b c d
    let (units, count) ← readString? rest
    return (.code n :: units, count + 6)
  | '\\' :: c :: rest => do
    let e ← escaped? c
    let (units, count) ← readString? rest
    return (.char e :: units, count + 2)
  | c :: rest =>
    if c == '\\' || c.toNat < 0x20 then none
    else do
      let (units, count) ← readString? rest
      return (.char c :: units, count + 1)

/-! ## Numbers -/

/-- The digits at the start of a text, and the rest. -/
def readDigits (text : List Char) : List Nat × List Char :=
  ((text.takeWhile Char.isDigit).map fun c => c.toNat - '0'.toNat, text.dropWhile Char.isDigit)

/-- Reads the digits before the point: a zero stands alone. -/
def readWhole? (text : List Char) : Option (List Nat × List Char) :=
  match text with
  | '0' :: rest => some ([0], rest)
  | _ =>
    match readDigits text with
    | ([], _) => none
    | found => some found

/-- Reads a point with the digits behind it, if there is one. -/
def readFraction? (text : List Char) : Option (Option (List Nat) × List Char) :=
  match text with
  | '.' :: rest =>
    match readDigits rest with
    | ([], _) => none
    | (digits, rest) => some (some digits, rest)
  | _ => some (none, text)

/-- Reads an exponent, if there is one. -/
def readExponent? (text : List Char) : Option (Option (Bool × List Nat) × List Char) :=
  let exponent (negative : Bool) (rest : List Char) :=
    match readDigits rest with
    | ([], _) => none
    | (digits, rest) => some (some (negative, digits), rest)
  match text with
  | 'e' :: rest | 'E' :: rest =>
    match rest with
    | '-' :: rest => exponent true rest
    | '+' :: rest => exponent false rest
    | _ => exponent false rest
  | _ => some (none, text)

/-- Reads a number; also counts the characters read. -/
def readNumber? (text : List Char) : Option (NumberText × Nat) := do
  let (negative, rest) := match text with
    | '-' :: rest => (true, rest)
    | _ => (false, text)
  let (whole, rest) ← readWhole? rest
  let (fraction, rest) ← readFraction? rest
  let (exponent, rest) ← readExponent? rest
  return (⟨negative, whole, fraction, exponent⟩, text.length - rest.length)

/-! ## Tokens -/

/-- Whether a character may stand between tokens. -/
def isSpace (c : Char) : Bool :=
  c == ' ' || c == '\n' || c == '\t' || c == '\r'

/-- The token that starts with `c`, and how many characters behind `c` belong to it. -/
def readToken? (c : Char) (rest : List Char) : Option (Token × Nat) :=
  match c with
  | '[' => some (.openBracket, 0)
  | ']' => some (.closeBracket, 0)
  | '{' => some (.openBrace, 0)
  | '}' => some (.closeBrace, 0)
  | ',' => some (.comma, 0)
  | ':' => some (.colon, 0)
  | '"' => (readString? rest).map fun (units, count) => (.string units, count)
  | 'n' => if "ull".toList.isPrefixOf rest then some (.null, 3) else none
  | 't' => if "rue".toList.isPrefixOf rest then some (.bool true, 3) else none
  | 'f' => if "alse".toList.isPrefixOf rest then some (.bool false, 4) else none
  | _ => (readNumber? (c :: rest)).map fun (number, count) => (.number number, count - 1)

/-- The tokens of a text, if it consists of tokens and space between them. -/
def tokens? : List Char → Option (List Token)
  | [] => some []
  | c :: rest =>
    if isSpace c then tokens? rest
    else
      match readToken? c rest with
      | some (token, count) => (tokens? (rest.drop count)).map (token :: ·)
      | none => none
termination_by text => text.length
decreasing_by all_goals simp; try omega

end DocAudit.Json
