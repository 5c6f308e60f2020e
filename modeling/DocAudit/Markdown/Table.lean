import DocAudit.Markdown.Line
import DocAudit.Text.Blank
import DocAudit.Text.Punctuation

/-!
# Rows of tables

A table starts with a row of headers and a row of dashes with the same number of columns.  Vertical
bars separate cells, unless a backslash stands before them.  Cells are kept as they are written,
without the space and the bars at their ends.
-/

namespace DocAudit.Markdown

/-! ## Counting columns -/

/-- The number of bars in a line that no backslash escapes. -/
def countBars : List Char → Nat
  | [] => 0
  | '\\' :: c :: rest =>
    if Text.isAsciiPunctuation c then countBars rest else countBars (c :: rest)
  | c :: rest => (if c == '|' then 1 else 0) + countBars rest

/-- Whether nothing but space follows the last bar of a line that no backslash escapes. -/
def endsWithBar : List Char → Bool
  | [] => false
  | '\\' :: c :: rest =>
    if Text.isAsciiPunctuation c then endsWithBar rest else endsWithBar (c :: rest)
  | c :: rest => (c == '|' && isBlankRest rest) || endsWithBar rest

/-- The number of columns of a row of headers, or zero if there is no bar in it. -/
def headerColumns (text : List Char) : Nat :=
  let bars := countBars text
  let leading := match text.dropWhile isLineSpace with
    | '|' :: _ => 1
    | _ => 0
  if bars = 0 then 0 else bars - leading + (if endsWithBar text then 0 else 1)

/-- What was seen of a row of dashes: the columns that are complete, whether the latest one has
started, whether it has a dash, and whether there was any bar and any dash. -/
structure DashRow where
  columns : Nat
  started : Bool
  dashed : Bool
  anyBar : Bool
  anyDash : Bool

/-- Reads one character of a row of dashes. -/
def DashRow.step? (row : DashRow) (c : Char) : Option DashRow :=
  match c with
  | ' ' => some row
  | ':' => some { row with started := true }
  | '-' => some { row with started := true, dashed := true, anyDash := true }
  | '|' =>
    if row.dashed then some ⟨row.columns + 1, false, false, true, row.anyDash⟩ else none
  | _ => none

/-- The number of columns of a row of dashes behind its indentation. -/
def dashColumns? (text : List Char) : Option Nat :=
  let (body, bar) := match text with
    | '|' :: rest => (rest, true)
    | _ => (text, false)
  match body.foldlM DashRow.step? ⟨0, false, false, bar, false⟩ with
  | some row =>
    if row.anyBar && row.anyDash then some (row.columns + if row.started then 1 else 0) else none
  | none => none

/-! ## Cells -/

/-- The text up to the next bar that no backslash escapes, and the text from that bar on. -/
def cutAtBar : List Char → List Char × List Char
  | [] => ([], [])
  | '\\' :: c :: rest =>
    if Text.isAsciiPunctuation c then
      let (cell, behind) := cutAtBar rest
      ('\\' :: c :: cell, behind)
    else
      let (cell, behind) := cutAtBar (c :: rest)
      ('\\' :: cell, behind)
  | c :: rest =>
    if c == '|' then ([], c :: rest)
    else
      let (cell, behind) := cutAtBar rest
      (c :: cell, behind)

/-- The cells of a row as they are written.  A bar at either end of the row does not count. -/
def rowCells (text : List Char) : List (List Char) :=
  let body := match text with
    | '|' :: rest => rest
    | _ => text
  if isBlankRest body then []
  else
    let (cell, behind) := cutAtBar body
    if behind.length < text.length then cell :: rowCells behind else [cell]
termination_by text.length

/-- A cell without the space and the bars at its ends. -/
def cellText (cell : List Char) : List Char :=
  Text.trim (Text.trimBy (· == '|') (Text.trim cell))

/-- Exactly `columns` cells: missing ones are empty, and further ones are dropped. -/
def fitCells (columns : Nat) (cells : List (List Char)) : List (List Char) :=
  cells.take columns ++ List.replicate (columns - cells.length) []

end DocAudit.Markdown
