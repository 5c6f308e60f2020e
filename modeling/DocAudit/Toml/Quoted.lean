import DocAudit.Text.PercentEncoding

/-!
# Quoted texts of TOML

A text stands in double quotes, where a backslash starts an escape, or in single quotes, where every
character stands for itself.  In three quotes of either kind it may run over several lines; a line
break directly behind the opening quotes does not count.
-/

namespace DocAudit.Toml

/-- Whether a character may stand in a quoted text, line breaks apart. -/
def isTextChar (c : Char) : Bool :=
  c == '\t' || (0x20 ≤ c.toNat && c.toNat ≠ 0x7F)

/-- Whether a character is a space or a tab. -/
def isSpace (c : Char) : Bool :=
  c == ' ' || c == '\t'

/-! ## Escapes -/

/-- The character that a one-letter escape stands for. -/
def escapeChar? : Char → Option Char
  | '"' => some '"'
  | '\\' => some '\\'
  | 'b' => some '\x08'
  | 'f' => some '\x0c'
  | 'n' => some '\n'
  | 'r' => some '\r'
  | 't' => some '\t'
  | _ => none

/-- The character with a hexadecimal number, if there is one. -/
def hexChar? (digits : List Char) : Option Char := do
  let n ← digits.foldlM (fun n c => (Text.hexValue? c).map (16 * n + ·)) 0
  if h : n.isValidChar then some (.ofNatAux n h) else none

/-- The character that the escape at the start of a text stands for, and the number of characters of
the escape.  The text starts behind the backslash. -/
def readEscape? (text : List Char) : Option (Char × Nat) :=
  match text with
  | 'u' :: rest =>
    if 4 ≤ rest.length then (hexChar? (rest.take 4)).map (·, 5) else none
  | 'U' :: rest =>
    if 8 ≤ rest.length then (hexChar? (rest.take 8)).map (·, 9) else none
  | c :: _ => (escapeChar? c).map (·, 1)
  | [] => none

/-! ## Texts on one line -/

/-- Reads a text in double quotes behind the first of them, skipping the first `skip` characters,
which belong to an escape.  The rest of the text comes second. -/
def readBasic? : Nat → List Char → Option (List Char × List Char)
  | _, [] => none
  | skip + 1, _ :: rest => readBasic? skip rest
  | 0, '"' :: rest => some ([], rest)
  | 0, '\\' :: rest => do
    let (c, count) ← readEscape? rest
    let (text, rest) ← readBasic? count rest
    return (c :: text, rest)
  | 0, c :: rest =>
    if isTextChar c then (readBasic? 0 rest).map fun (text, rest) => (c :: text, rest) else none

/-- Reads a text in single quotes behind the first of them. -/
def readLiteral? : List Char → Option (List Char × List Char)
  | [] => none
  | '\'' :: rest => some ([], rest)
  | c :: rest =>
    if isTextChar c then (readLiteral? rest).map fun (text, rest) => (c :: text, rest) else none

/-! ## Texts over several lines -/

/-- A text without the line break at its start, if there is one. -/
def dropLineBreak (text : List Char) : List Char :=
  match text with
  | '\n' :: rest => rest
  | '\r' :: '\n' :: rest => rest
  | _ => text

/-- Whether only spaces stand before the next line break. -/
def endsLine (text : List Char) : Bool :=
  match text.dropWhile isSpace with
  | '\n' :: _ | '\r' :: '\n' :: _ => true
  | _ => false

/-- The end of a text in three quotes: up to two quotes before the last three belong to the text. -/
def closingQuotes? (quote : Char) (text : List Char) : Option (List Char × List Char) :=
  let count := (text.takeWhile (· == quote)).length
  if count < 3 then none
  else
    let kept := min (count - 3) 2
    some (List.replicate kept quote, text.drop (kept + 3))

/-- How the next characters of a text over several lines are read. -/
inductive Passage where
  /-- as part of the text -/
  | reading
  /-- not at all: that many characters belong to an escape -/
  | skipping (count : Nat)
  /-- not at all as long as they are spaces or line breaks -/
  | joining

/-- Reads a text in three double quotes behind the first three.  A backslash at the end of a line
joins the line with the next character that is not blank. -/
def readBasicLines? : Passage → List Char → Option (List Char × List Char)
  | _, [] => none
  | .skipping (count + 1), _ :: rest => readBasicLines? (.skipping count) rest
  | passage, c :: rest =>
    let joining := match passage with
      | .joining => true
      | _ => false
    if joining && (isSpace c || c == '\n') then readBasicLines? .joining rest
    else if joining && c == '\r' then
      (match rest with
       | '\n' :: _ => readBasicLines? .joining rest
       | _ => none)
    else if let some found := closingQuotes? '"' (c :: rest) then some found
    else if c == '\\' then
      if endsLine rest then readBasicLines? .joining rest
      else do
        let (e, count) ← readEscape? rest
        let (text, rest) ← readBasicLines? (.skipping count) rest
        return (e :: text, rest)
    else if c == '\r' then
      (match rest with
       | '\n' :: _ => readBasicLines? .reading rest
       | _ => none)
    else if isTextChar c || c == '\n' then
      (readBasicLines? .reading rest).map fun (text, rest) => (c :: text, rest)
    else none

/-- Reads a text in three single quotes behind the first three. -/
def readLiteralLines? : List Char → Option (List Char × List Char)
  | [] => none
  | c :: rest =>
    if let some found := closingQuotes? '\'' (c :: rest) then some found
    else if c == '\r' then
      (match rest with
       | '\n' :: _ => readLiteralLines? rest
       | _ => none)
    else if isTextChar c || c == '\n' then
      (readLiteralLines? rest).map fun (text, rest) => (c :: text, rest)
    else none

/-! ## All quoted texts -/

/-- Reads a quoted text on one line. -/
def readQuotedLine? (text : List Char) : Option (List Char × List Char) :=
  match text with
  | '"' :: rest => readBasic? 0 rest
  | '\'' :: rest => readLiteral? rest
  | _ => none

/-- Reads a quoted text of any kind. -/
def readQuoted? (text : List Char) : Option (List Char × List Char) :=
  match text with
  | '"' :: '"' :: '"' :: rest => readBasicLines? .reading (dropLineBreak rest)
  | '\'' :: '\'' :: '\'' :: rest => readLiteralLines? (dropLineBreak rest)
  | _ => readQuotedLine? text

end DocAudit.Toml
