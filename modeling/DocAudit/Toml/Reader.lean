import DocAudit.Toml.Draft
import DocAudit.Toml.Quoted
import DocAudit.Toml.Scalar

/-!
# Reading TOML

A text is read line by line: a line holds a header, a pair of a key and a value, or nothing; an
array and a text in three quotes may run over several lines.  A value with brackets is read with a
stack of the arrays and tables that are still open (`readValue?`).
-/

namespace DocAudit.Toml

/-! ## Keys and blank parts -/

/-- A text without spaces at its start. -/
def skipSpace (text : List Char) : List Char :=
  text.dropWhile isSpace

/-- Whether a character may stand in a key without quotes. -/
def isKeyChar (c : Char) : Bool :=
  c.isAlphanum || c == '_' || c == '-'

/-- Reads one part of a key. -/
def readKeyPart? (text : List Char) : Option (String × List Char) :=
  match readQuotedLine? text with
  | some (key, rest) => some (.ofList key, rest)
  | none =>
    match text.takeWhile isKeyChar with
    | [] => none
    | key => some (.ofList key, text.dropWhile isKeyChar)

/-- Reads a key: parts with points between them, and spaces around these. -/
def readKey? (text : List Char) : Option (List String × String × List Char) :=
  match readKeyPart? text with
  | none => none
  | some (part, rest) =>
    match skipSpace rest with
    | '.' :: more =>
      if (skipSpace more).length < text.length then
        (readKey? (skipSpace more)).map fun (path, key, rest) => (part :: path, key, rest)
      else none
    | rest => some ([], part, rest)
termination_by text.length

/-- Reads the rest of a line that has no further content: spaces, and perhaps a comment. -/
def finishLine? (text : List Char) : Option (List Char) :=
  let rest := match skipSpace text with
    | '#' :: comment => comment.dropWhile isTextChar
    | rest => rest
  match rest with
  | [] => some []
  | '\n' :: rest => some rest
  | '\r' :: '\n' :: rest => some rest
  | _ => none

/-! ## Values -/

/-- An array or a table in braces whose end is still to come: its latest item first, or its entries
so far and the key that the next value is for. -/
inductive Open where
  | array (items : List Value)
  | table (entries : DraftTable) (path : List String) (key : String)

/-- What comes next inside a value. -/
inductive Awaited where
  /-- a value -/
  | value
  /-- an item of an array, or its end -/
  | item
  /-- a comma between items, or the end of the array -/
  | comma
  /-- the first key of a table in braces, or its end -/
  | firstKey
  /-- a key of a table in braces -/
  | key
  /-- a comma between pairs, or the end of the table in braces -/
  | pairComma

/-- What one step of reading a value gives: the value with the rest of the text, or what comes
next. -/
inductive ValueStep where
  | done (value : Value) (rest : List Char)
  | more (awaited : Awaited) (stack : List Open) (rest : List Char)

/-- Puts a complete value where it belongs. -/
def putValue? (value : Value) (rest : List Char) : List Open → Option ValueStep
  | [] => some (.done value rest)
  | .array items :: outer => some (.more .comma (.array (value :: items) :: outer) rest)
  | .table entries path key :: outer =>
    (entries.addPair? path key value).map fun entries =>
      .more .pairComma (.table entries [] "" :: outer) rest

/-- Reads the start of a value: a bracket, or a whole value without brackets. -/
def startValue? (stack : List Open) (text : List Char) : Option ValueStep :=
  match text with
  | '[' :: rest => some (.more .item (.array [] :: stack) rest)
  | '{' :: rest => some (.more .firstKey (.table .empty [] "" :: stack) rest)
  | _ =>
    match readQuoted? text with
    | some (content, rest) => putValue? (.string (.ofList content)) rest stack
    | none =>
      let (word, rest) := readWord text
      (wordValue? word).bind fun value => putValue? value rest stack

/-- Reads a key with its equals sign inside a table in braces. -/
def startPair? (entries : DraftTable) (outer : List Open) (text : List Char) : Option ValueStep :=
  match readKey? text with
  | some (path, key, '=' :: rest) =>
    some (.more .value (.table entries path key :: outer) (skipSpace rest))
  | _ => none

/-- Reads one step of a value. -/
def stepValue? (awaited : Awaited) (stack : List Open) (text : List Char) : Option ValueStep :=
  match awaited, stack, text with
  | .value, stack, text => startValue? stack text
  | .item, .array items :: outer, c :: rest =>
    if c == ']' then putValue? (.array items.reverse) rest outer
    else if isSpace c || c == '\n' || c == '\r' || c == '#' then
      (skipFiller (c :: rest)).map (.more .item stack)
    else startValue? stack text
  | .comma, .array items :: outer, c :: rest =>
    if c == ',' then some (.more .item stack rest)
    else if c == ']' then putValue? (.array items.reverse) rest outer
    else (skipFiller (c :: rest)).map (.more .comma stack)
  | .firstKey, .table entries _ _ :: outer, text =>
    match skipSpace text with
    | '}' :: rest => putValue? entries.finished rest outer
    | text => startPair? entries outer text
  | .key, .table entries _ _ :: outer, text => startPair? entries outer (skipSpace text)
  | .pairComma, .table entries _ _ :: outer, text =>
    match skipSpace text with
    | ',' :: rest => some (.more .key stack rest)
    | '}' :: rest => putValue? entries.finished rest outer
    | _ => none
  | _, _, _ => none
where
  /-- One space, or the rest of a line that has no further content. -/
  skipFiller (text : List Char) : Option (List Char) :=
    match text with
    | c :: rest => if isSpace c then some rest else finishLine? text
    | [] => none

/-- Reads a value from a state of reading on. -/
def readValueFrom? (awaited : Awaited) (stack : List Open) (text : List Char) :
    Option (Value × List Char) :=
  match stepValue? awaited stack text with
  | none => none
  | some (.done value rest) => some (value, rest)
  | some (.more awaited stack rest) =>
    if rest.length < text.length then readValueFrom? awaited stack rest else none
termination_by text.length

/-- Reads a value. -/
def readValue? (text : List Char) : Option (Value × List Char) :=
  readValueFrom? .value [] text

/-! ## Lines -/

/-- A whole text while it is read: the table so far, and the path of the header that the next pairs
stand under. -/
structure Document where
  root : DraftTable
  under : List String

/-- Reads a header behind its opening brackets. -/
def readHeader? (closing : List Char) (text : List Char) :
    Option (List String × String × List Char) := do
  let (path, key, rest) ← readKey? (skipSpace text)
  let rest ← closing.isPrefixOf? (skipSpace rest)
  return (path, key, ← finishLine? rest)

/-- Reads a header, a pair or an empty line; gives the rest of the text as well. -/
def Document.readLine? (document : Document) (text : List Char) :
    Option (Document × List Char) :=
  match finishLine? text with
  | some rest => some (document, rest)
  | none =>
    match skipSpace text with
    | '[' :: '[' :: header => do
      let (path, key, rest) ← readHeader? [']', ']'] header
      return (⟨← document.root.addArrayHeader? path key, path ++ [key]⟩, rest)
    | '[' :: header => do
      let (path, key, rest) ← readHeader? [']'] header
      return (⟨← document.root.addHeader? path key, path ++ [key]⟩, rest)
    | pair =>
      match readKey? pair with
      | some (path, key, '=' :: rest) => do
        let (value, rest) ← readValue? (skipSpace rest)
        let rest ← finishLine? rest
        let root ← document.root.change false (DraftTable.addPair? path key value) document.under
        return (⟨root, document.under⟩, rest)
      | _ => none

/-- Reads the lines of a text. -/
def Document.read? (document : Document) (text : List Char) : Option Document :=
  if text.isEmpty then some document
  else
    match document.readLine? text with
    | none => none
    | some (document, rest) =>
      if rest.length < text.length then document.read? rest else none
termination_by text.length

/-- The table that a text stands for, if it is a TOML text.  A byte order mark at its start does not
count. -/
def Value.read? (text : List Char) : Option Value :=
  let body := match text with
    | c :: rest => if c.toNat == 0xFEFF then rest else text
    | [] => []
  (Document.read? ⟨.empty, []⟩ body).map (·.root.finished)

end DocAudit.Toml
