import DocAudit.Markdown.Escape
import DocAudit.Markdown.Html
import DocAudit.Text.Lowercase

/-!
# Link targets, titles and labels

The parts of links and of reference definitions.  A target stands in angle brackets or contains no
white space and only balanced parentheses; a title stands in quotes or parentheses; a label stands
in square brackets and names a definition elsewhere on the page, where case and the amount of white
space do not count.
-/

namespace DocAudit.Markdown

/-! ## Targets and titles -/

/-- Reads a target in angle brackets behind the first of them: the target, and the rest. -/
def readPointedTarget? : List Char → Option (List Char × List Char)
  | [] => none
  | '>' :: rest => some ([], rest)
  | '\\' :: c :: rest =>
    if Text.isAsciiPunctuation c then
      (readPointedTarget? rest).map fun (target, rest) => ('\\' :: c :: target, rest)
    else (readPointedTarget? (c :: rest)).map fun (target, rest) => ('\\' :: target, rest)
  | c :: rest =>
    if c == '\n' || c == '\r' || c == '<' then none
    else (readPointedTarget? rest).map fun (target, rest) => (c :: target, rest)

/-- Parentheses in a target may be nested this deeply. -/
def maxNesting : Nat := 32

/-- Reads a target without angle brackets, inside `depth` open parentheses. -/
def readPlainTarget? (depth : Nat) : List Char → Option (List Char × List Char)
  | [] => if depth = 0 then some ([], []) else none
  | '\\' :: c :: rest =>
    if Text.isAsciiPunctuation c then
      (readPlainTarget? depth rest).map fun (target, rest) => ('\\' :: c :: target, rest)
    else (readPlainTarget? depth (c :: rest)).map fun (target, rest) => ('\\' :: target, rest)
  | c :: rest =>
    let onward (depth : Nat) :=
      (readPlainTarget? depth rest).map fun (target, rest) => (c :: target, rest)
    if c.toNat ≤ 0x20 then (if depth = 0 then some ([], c :: rest) else none)
    else if c == '(' then (if maxNesting < depth then none else onward (depth + 1))
    else if c == ')' then
      (if depth = 0 then some ([], c :: rest) else onward (depth - 1))
    else onward depth

/-- Reads a target: the target as it is written, and the rest. -/
def readTarget? (text : List Char) : Option (List Char × List Char) :=
  match text with
  | '<' :: rest => readPointedTarget? rest
  | _ => readPlainTarget? 0 text

/-- Reads a title up to its closing mark; gives the rest behind it. -/
def readTitleEnd? (closing : Char) : List Char → Option (List Char)
  | [] => none
  | '\\' :: c :: rest =>
    if Text.isAsciiPunctuation c then readTitleEnd? closing rest
    else readTitleEnd? closing (c :: rest)
  | c :: rest =>
    if c == closing then some rest
    else if closing == ')' && c == '(' then none
    else readTitleEnd? closing rest

/-- Reads a title; gives the rest behind it. -/
def readTitle? (text : List Char) : Option (List Char) :=
  match text with
  | '"' :: rest => readTitleEnd? '"' rest
  | '\'' :: rest => readTitleEnd? '\'' rest
  | '(' :: rest => readTitleEnd? ')' rest
  | _ => none

/-- Reads a target with its title in parentheses, as it follows the text of a link: the target, and
the number of characters read. -/
def readInlineTarget? (text : List Char) : Option (List Char × Nat) :=
  match text with
  | '(' :: body =>
    match readTarget? (Html.skipSpace body) with
    | none => none
    | some (target, rest) =>
      let rest := Html.skipSpace rest
      let rest := match readTitle? rest with
        | some rest => Html.skipSpace rest
        | none => rest
      match rest with
      | ')' :: rest => some (unescape target, text.length - rest.length)
      | _ => none
  | _ => none

/-! ## Labels -/

/-- Reads a label behind its opening bracket: the label as it is written, and the rest behind its
closing bracket. -/
def readLabelBody? : List Char → Option (List Char × List Char)
  | [] => none
  | ']' :: rest => some ([], rest)
  | '[' :: _ => none
  | '\\' :: c :: rest => (readLabelBody? rest).map fun (label, rest) => ('\\' :: c :: label, rest)
  | c :: rest => (readLabelBody? rest).map fun (label, rest) => (c :: label, rest)

/-- The longest label. -/
def maxLabel : Nat := 999

/-- Reads a label with its brackets.  A label holds at least one character that is not blank. -/
def readLabel? (text : List Char) : Option (List Char × List Char) :=
  match text with
  | '[' :: body =>
    (readLabelBody? body).filter fun (label, _) =>
      label.length ≤ maxLabel && !label.all Html.isTagSpace
  | _ => none

/-- A character as it counts in labels. -/
def foldedChar (c : Char) : List Char :=
  match c with
  | 'ς' => ['σ']
  | 'ß' | 'ẞ' => ['s', 's']
  | _ => Text.lowerChar c

/-- What two labels of one definition have in common: their words without regard to case. -/
def labelKey (label : List Char) : List Char :=
  (Text.join [' '] (Text.wordsBy Html.isTagSpace label)).flatMap foldedChar

/-! ## Reference definitions -/

/-- The targets of a page's reference definitions by the keys of their labels, first ones first. -/
abbrev References := List (List Char × List Char)

/-- Passes white space with at most one line break in it; also gives the number of line breaks. -/
def passSpace? (text : List Char) : Option (Nat × List Char) :=
  let breaks := ((text.takeWhile Html.isTagSpace).filter (· == '\n')).length
  if breaks ≤ 1 then some (breaks, Html.skipSpace text) else none

/-- Whether the rest of the first line is blank. -/
def isLineEnd (text : List Char) : Bool :=
  match text.dropWhile isLineSpace with
  | [] => true
  | c :: _ => c == '\n'

/-- Reads a reference definition at the start of a text whose lines end in line feeds: the key of
its label, its target, and the rest of the text. -/
def readDefinition? (text : List Char) : Option (List Char × List Char × List Char) := do
  let (label, rest) ← readLabel? text
  let rest ← [':'].isPrefixOf? rest
  let (_, rest) ← passSpace? rest
  let (target, behind) ← readTarget? rest
  if behind.length == rest.length then none
  else
    let untitled := (labelKey label, unescape target, behind)
    match passSpace? behind with
    | none => some untitled
    | some (breaks, rest) =>
      if rest.isEmpty then some untitled
      else if rest.length == behind.length then none
      else
        match readTitle? rest with
        | some end_ =>
          if isLineEnd end_ then some (labelKey label, unescape target, end_)
          else if breaks = 1 then some untitled
          else none
        | none => if breaks = 1 then some untitled else none

end DocAudit.Markdown
