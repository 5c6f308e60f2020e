/-!
# Source lines

A page is read line by line.  Of each line the containers around it, such as quotes and list items,
read their marks first; what they leave is read by the block inside.  A `Cursor` is the place that
was reached in a line.  Indentation is counted in columns: a tab reaches to the next multiple of
four, and a container may use up a part of a tab only.
-/

namespace DocAudit.Markdown

/-- A line of a page: its number, its characters, and the line break behind it, if there is one. -/
structure Line where
  number : Nat
  text : List Char
  ending : List Char
  deriving Repr

/-- Cuts a text into lines, where `current` holds the characters of the first one already read,
latest first.  Line numbers count line feeds. -/
def linesFrom (number : Nat) (current : List Char) : List Char → List Line
  | [] => if current.isEmpty then [] else [⟨number, current.reverse, []⟩]
  | '\r' :: '\n' :: rest =>
    ⟨number, current.reverse, ['\r', '\n']⟩ :: linesFrom (number + 1) [] rest
  | '\n' :: rest => ⟨number, current.reverse, ['\n']⟩ :: linesFrom (number + 1) [] rest
  | '\r' :: rest => ⟨number, current.reverse, ['\r']⟩ :: linesFrom number [] rest
  | c :: rest => linesFrom number (c :: current) rest

/-- The lines of a page. -/
def Line.split (text : List Char) : List Line :=
  linesFrom 1 [] text

/-- The line break as it appears in code: a carriage return before a line feed is left out. -/
def Line.codeEnding (line : Line) : List Char :=
  if line.ending == ['\r', '\n'] then ['\n'] else line.ending

/-- Whether a character is a space or a tab. -/
def isSpace (c : Char) : Bool :=
  c == ' ' || c == '\t'

/-- Whether a character is white space within a line. -/
def isLineSpace (c : Char) : Bool :=
  isSpace c || c == '\x0b' || c == '\x0c'

/-- Whether nothing but white space is left of a line. -/
def isBlankRest (text : List Char) : Bool :=
  text.all isLineSpace

/-! ## Places in a line -/

/-- A place in a line: the characters behind it, its column counted from the last tab, and the
columns left of a tab that was used up in part. -/
structure Cursor where
  rest : List Char
  column : Nat
  pending : Nat
  deriving Repr

namespace Cursor

/-- The start of a line. -/
def start (line : Line) : Cursor := ⟨line.text, 0, 0⟩

/-- Passes columns of white space, at most `wanted` of them, from a place without a partly used tab.
Also gives the number of columns that were not there. -/
def passColumns (wanted column : Nat) (text : List Char) : Nat × Cursor :=
  if wanted = 0 then (0, ⟨text, column, 0⟩)
  else
    match text with
    | ' ' :: rest => passColumns (wanted - 1) (column + 1) rest
    | '\t' :: rest =>
      let width := 4 - column % 4
      if width ≤ wanted then passColumns (wanted - width) 0 rest
      else (0, ⟨rest, 0, width - wanted⟩)
    | _ => (wanted, ⟨text, column, 0⟩)

/-- Passes columns of white space, at most `wanted` of them, and gives the number missing. -/
def pass (wanted : Nat) (cursor : Cursor) : Nat × Cursor :=
  if wanted ≤ cursor.pending then
    (0, ⟨cursor.rest, cursor.column, cursor.pending - wanted⟩)
  else passColumns (wanted - cursor.pending) cursor.column cursor.rest

/-- Passes all spaces and tabs. -/
def passAll (cursor : Cursor) : List Char :=
  cursor.rest.dropWhile isSpace

/-- Passes one character that is no white space. -/
def next (cursor : Cursor) : Cursor :=
  ⟨cursor.rest.drop 1, cursor.column + 1, 0⟩

/-- The text behind a place, with the columns of a partly used tab as spaces. -/
def expanded (cursor : Cursor) : List Char :=
  List.replicate cursor.pending ' ' ++ cursor.rest

end Cursor

end DocAudit.Markdown
