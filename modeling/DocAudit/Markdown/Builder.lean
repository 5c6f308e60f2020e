import DocAudit.Markdown.BlockStart
import DocAudit.Markdown.Html
import DocAudit.Markdown.LinkTarget
import DocAudit.Markdown.Node
import DocAudit.Markdown.Table

/-!
# Building the structure of a page

The lines of a page are read one after the other.  Between two lines a `Builder` holds the
containers that are open and the block that the next line may continue.  A line first passes the
marks of the open containers; those whose marks are missing are closed, unless the line continues a
paragraph inside them.  Then it continues the open block, or it closes that block and opens others.
-/

namespace DocAudit.Markdown

/-- A container whose end is still to come: what it is, and its blocks, latest first. -/
structure OpenContainer where
  kind : ContainerKind
  children : List Node

/-- A block that the next line may continue.  Texts are kept in pieces, latest first. -/
inductive Leaf where
  | paragraph (line : Nat) (lines : List (List Char))
  | fenced (line : Nat) (fence : Fence) (indent : Nat) (text : List (List Char))
  | indented (line : Nat) (text : List (List Char)) (blanks : List (List Char))
  | html (line : Nat) (closing : Option (List Char)) (text : List (List Char))
  | table (line columns : Nat) (header : Row) (rows : List Row)

/-- The state between two lines. -/
structure Builder where
  /-- the open containers, innermost first -/
  stack : List OpenContainer
  /-- the blocks of the page outside of open containers, latest first -/
  done : List Node
  /-- the block that the next line may continue -/
  leaf : Option Leaf
  /-- whether the line before was blank -/
  blankBefore : Bool
  /-- whether the latest list item has started with a blank line and has no block yet -/
  emptyItem : Bool
  /-- how many of the next lines were already read -/
  skip : Nat
  /-- the reference definitions found so far -/
  references : References

namespace Builder

/-- The state before the first line. -/
def empty : Builder := ⟨[], [], none, false, false, 0, []⟩

/-! ## Blocks and containers -/

/-- Adds a complete block. -/
def addNode (builder : Builder) (node : Node) : Builder :=
  match builder.stack with
  | [] => { builder with done := node :: builder.done }
  | top :: outer => { builder with stack := { top with children := node :: top.children } :: outer }

/-- Closes the innermost container. -/
def pop (builder : Builder) : Builder :=
  match builder.stack with
  | [] => builder
  | top :: outer =>
    addNode { builder with stack := outer } (.container top.kind top.children.reverse)

/-- Closes the innermost containers until only `count` are open. -/
def popTo (count : Nat) (builder : Builder) : Builder :=
  (List.range (builder.stack.length - count)).foldl (fun b _ => b.pop) builder

/-- Opens a container. -/
def push (builder : Builder) (kind : ContainerKind) : Builder :=
  { builder with stack := ⟨kind, []⟩ :: builder.stack }

/-- Whether the innermost container is a list. -/
def insideList (builder : Builder) : Bool :=
  match builder.stack with
  | ⟨.list _ _, _⟩ :: _ => true
  | _ => false

/-- Whether the innermost container is a list item. -/
def insideItem (builder : Builder) : Bool :=
  match builder.stack with
  | ⟨.item _, _⟩ :: _ => true
  | _ => false

/-- A container that is not tight, if it is a list. -/
def loosened (container : OpenContainer) : OpenContainer :=
  match container.kind with
  | .list mark _ => { container with kind := .list mark false }
  | _ => container

/-- A list item that started with a blank line ends at a second one. -/
def finishEmptyItem (builder : Builder) : Builder :=
  let builder :=
    if builder.emptyItem && builder.blankBefore && builder.insideItem then builder.pop else builder
  { builder with emptyItem := false }

/-- Closes a list that the current line does not continue.  A blank line before the current one
makes the list around the current item loose. -/
def finishList (builder : Builder) : Builder :=
  let builder := builder.finishEmptyItem
  let builder := if builder.insideList then builder.pop else builder
  if builder.blankBefore then
    let stack := match builder.stack with
      | top :: outer :: rest => top :: loosened outer :: rest
      | stack => stack
    { builder with stack := stack, blankBefore := false }
  else builder

/-- Continues the open list with an item whose mark ends in `mark`, or opens a new one. -/
def continueList (builder : Builder) (mark : Char) : Builder :=
  let builder := builder.finishEmptyItem
  match builder.stack with
  | ⟨.list known tight, children⟩ :: outer =>
    if known == mark then
      { builder with stack := ⟨.list known (tight && !builder.blankBefore), children⟩ :: outer,
                     blankBefore := false }
    else { builder.finishList.push (.list mark true) with blankBefore := false }
  | _ => { builder.finishList.push (.list mark true) with blankBefore := false }

/-! ## The marks of containers -/

/-- Passes the mark of a quote. -/
def passQuote? (cursor : Cursor) : Option Cursor :=
  match cursor.rest with
  | '>' :: _ => if cursor.pending = 0 then some (cursor.next.pass 1).2 else none
  | _ => none

/-- Passes the marks of containers, outermost first, as long as they are there.  Gives the number of
containers passed. -/
def passContainers : List ContainerKind → Cursor → Nat × Cursor
  | [], cursor => (0, cursor)
  | .list _ _ :: inner, cursor =>
    let (count, cursor) := passContainers inner cursor
    (count + 1, cursor)
  | .quote :: inner, cursor =>
    let (missing, indented) := cursor.pass 4
    match if missing = 0 then none else passQuote? indented with
    | some behind =>
      let (count, cursor) := passContainers inner behind
      (count + 1, cursor)
    | none => (0, cursor)
  | .item indent :: inner, cursor =>
    let (missing, indented) := cursor.pass indent
    if missing = 0 || indented.rest.isEmpty then
      let (count, cursor) := passContainers inner indented
      (count + 1, cursor)
    else (0, cursor)

/-- Passes the marks of the open containers at the start of a line. -/
def enter (builder : Builder) (line : Line) : Nat × Cursor :=
  passContainers (builder.stack.reverse.map (·.kind)) (.start line)

/-- Passes the marks of all open containers, if they are all there. -/
def enterAll? (builder : Builder) (line : Line) : Option Cursor :=
  let (count, cursor) := builder.enter line
  if count = builder.stack.length then some cursor else none

/-- Passes the mark of a list item that follows `indent` columns of space.  Gives the last character
of the mark and the width that the item's lines are indented by. -/
def passItemMark? (indent : Nat) (cursor : Cursor) : Option (Char × Nat × Cursor) :=
  if cursor.pending ≠ 0 then none
  else
    (itemMark? cursor.rest).map fun mark =>
      let behind : Cursor := ⟨cursor.rest.drop mark.width, cursor.column + mark.width, 0⟩
      let (_, behind) := behind.pass 1
      let width := indent + mark.width + 1
      if isBlankRest behind.rest then (mark.mark, width, behind)
      else
        let (missing, further) := behind.pass 4
        if missing = 0 then (mark.mark, width, behind)
        else (mark.mark, width + (4 - missing), further)

/-- Opens the containers whose marks start here.  Tells whether the line ends behind the mark of a
list item. -/
def openContainers (builder : Builder) (cursor : Cursor) : Builder × Cursor × Bool :=
  let (missing, indented) := cursor.pass 4
  if missing = 0 then (builder, cursor, false)
  else
    match passItemMark? (4 - missing) indented with
    | some (mark, width, behind) =>
      let opened := (builder.continueList mark).push (.item width)
      if isBlankRest behind.rest then ({ opened with emptyItem := true }, behind, true)
      else if behind.rest.length < cursor.rest.length then opened.openContainers behind
      else (opened, behind, false)
    | none =>
      match passQuote? indented with
      | some behind =>
        let opened := builder.finishList.push .quote
        if behind.rest.length < cursor.rest.length then opened.openContainers behind
        else (opened, behind, false)
      | none => (builder, cursor, false)
termination_by cursor.rest.length

/-! ## Tables inside paragraphs -/

/-- The number of columns of a table whose row of headers is `text`, given the line behind it. -/
def tableColumns? (builder : Builder) (text : List Char) (next : Option Line) : Option Nat := do
  let cursor ← builder.enterAll? (← next)
  let (missing, cursor) := cursor.pass 4
  if missing = 0 then none
  else
    let columns ← dashColumns? cursor.rest
    if columns = headerColumns text && 0 < columns then some columns else none

/-- Whether a line starts a block that may interrupt a paragraph or a table.  `current` says whether
the line lies in the same containers. -/
def interrupts (builder : Builder) (current inTable : Bool) (text : List Char)
    (next : Option Line) : Bool :=
  isBlankRest text || isRuler text || (headingLevel? text).isSome || (fence? text).isSome ||
    text.head? == some '>' ||
    (match itemMark? text with
     | some mark => !current || inTable || mark.mayInterrupt text
     | none => false) ||
    (match text with
     | '<' :: tag => (Html.blockEnd? tag).isSome || Html.startsBlock tag
     | _ => false) ||
    (current && (builder.tableColumns? text next).isSome)

/-! ## Closing blocks -/

/-- The text that pieces, latest first, form. -/
def joined (pieces : List (List Char)) : List Char :=
  pieces.reverse.flatten

/-- The language of a block of code: the first word of its info string. -/
def fenceLanguage (fence : Fence) : Option (List Char) :=
  (Text.words (unescape (Text.trimBy Html.isTagSpace fence.info))).head?

/-- The text of a paragraph from its lines, without the line break at its end. -/
def paragraphText (lines : List (List Char)) : List Char :=
  Text.trimEndBy (fun c => c == '\n' || c == '\r') (joined lines)

/-- Closes the block that the next line might have continued. -/
def closeLeaf (builder : Builder) : Builder :=
  let closed := { builder with leaf := none }
  match builder.leaf with
  | none => builder
  | some (.paragraph line lines) => closed.addNode (.paragraph line (paragraphText lines))
  | some (.fenced line fence _ text) =>
    closed.addNode (.code line (fenceLanguage fence) (joined text))
  | some (.indented line text blanks) =>
    { closed.addNode (.code line none (joined text)) with blankBefore := !blanks.isEmpty }
  | some (.html line _ text) => closed.addNode (.html line (joined text))
  | some (.table line _ header rows) => closed.addNode (.table line header rows.reverse)

/-! ## Continuing blocks -/

/-- A piece of code: the rest of a line from a place on, with its line break. -/
def codePiece (cursor : Cursor) (line : Line) : List Char :=
  cursor.expanded ++ line.codeEnding

/-- Continues a paragraph. -/
def continueParagraph? (builder : Builder) (start : Nat) (lines : List (List Char)) (line : Line)
    (next : Option Line) : Option Builder :=
  let (count, cursor) := builder.enter line
  let current := count == builder.stack.length
  let (missing, indented) := cursor.pass 4
  let underline := if missing = 0 || !current then none else underlineLevel? indented.rest
  match underline with
  | some level =>
    some ({ builder with leaf := none }.addNode (.heading level start (paragraphText lines)))
  | none =>
    if missing ≠ 0 && builder.interrupts current false indented.rest next then none
    else if (indented.rest.dropWhile isSpace).isEmpty then none
    else
      some { builder with leaf := some (.paragraph start ((cursor.rest ++ line.ending) :: lines)) }

/-- Continues code between fences, or ends it at the closing fence. -/
def continueFenced? (builder : Builder) (start : Nat) (fence : Fence) (indent : Nat)
    (text : List (List Char)) (line : Line) : Option Builder := do
  let cursor ← builder.enterAll? line
  let (_, inner) := cursor.pass indent
  let (missing, indented) := inner.pass 4
  if missing ≠ 0 && fence.isClosedBy indented.rest then return builder.closeLeaf
  else
    return { builder with
      leaf := some (.fenced start fence indent (codePiece inner line :: text)) }

/-- Continues indented code.  Blank lines belong to it only if more code follows. -/
def continueIndented? (builder : Builder) (start : Nat) (text blanks : List (List Char))
    (line : Line) : Option Builder := do
  let cursor ← builder.enterAll? line
  let (missing, inner) := cursor.pass 4
  let piece := codePiece inner line
  if isBlankRest inner.rest then
    if missing = 0 || inner.rest.isEmpty then
      return { builder with leaf := some (.indented start text (piece :: blanks)) }
    else none
  else if missing = 0 then
    return { builder with leaf := some (.indented start (piece :: (blanks ++ text)) []) }
  else none

/-- Adds a line to an HTML block and closes the block if the line holds its closing mark. -/
def addHtml (builder : Builder) (start : Nat) (closing : Option (List Char))
    (text : List (List Char)) (cursor : Cursor) (line : Line) : Builder :=
  let builder :=
    { builder with leaf := some (.html start closing (codePiece cursor line :: text)) }
  match closing with
  | some mark => if Text.occursIn mark cursor.rest then builder.closeLeaf else builder
  | none => builder

/-- Continues an HTML block. -/
def continueHtml? (builder : Builder) (start : Nat) (closing : Option (List Char))
    (text : List (List Char)) (line : Line) : Option Builder := do
  let cursor ← builder.enterAll? line
  if closing.isNone && isBlankRest cursor.rest then none
  else return builder.addHtml start closing text cursor line

/-- Continues a table.  No table starts inside another one. -/
def continueTable? (builder : Builder) (start columns : Nat) (header : Row) (rows : List Row)
    (line : Line) : Option Builder := do
  let cursor ← builder.enterAll? line
  let text := cursor.passAll
  if builder.interrupts true true text none then none
  else
    match rowCells text with
    | [] => none
    | cells =>
      let row : Row := ⟨line.number, fitCells columns cells⟩
      return { builder with leaf := some (.table start columns header (row :: rows)) }

/-- Continues the open block, if the line does. -/
def continueLeaf? (builder : Builder) (line : Line) (next : Option Line) : Option Builder :=
  match builder.leaf with
  | none => none
  | some (.paragraph start lines) => builder.continueParagraph? start lines line next
  | some (.fenced start fence indent text) => builder.continueFenced? start fence indent text line
  | some (.indented start text blanks) => builder.continueIndented? start text blanks line
  | some (.html start closing text) => builder.continueHtml? start closing text line
  | some (.table start columns header rows) =>
    builder.continueTable? start columns header rows line

/-! ## Opening blocks -/

/-- The text of the lines that a reference definition at the start of `text` may run over: the lines
that would continue a paragraph. -/
def definitionText (builder : Builder) (text : List Char) (rest : List Line) : List Char :=
  let continued := rest.map fun line =>
    let (count, cursor) := builder.enter line
    let (missing, indented) := cursor.pass 4
    if isBlankRest cursor.rest then none
    else if missing ≠ 0 &&
        (builder.interrupts (count == builder.stack.length) false indented.rest none ||
          (underlineLevel? indented.rest).isSome) then none
    else some cursor.rest
  let lines := (continued.takeWhile Option.isSome).map (·.getD [])
  Text.join ['\n'] (text :: lines)

/-- Reads a reference definition.  Further lines that it takes up are skipped. -/
def readDefinition? (builder : Builder) (text : List Char) (rest : List Line) : Option Builder :=
  match text with
  | '[' :: _ =>
    let all := builder.definitionText text rest
    (Markdown.readDefinition? all).map fun (key, target, behind) =>
      let read := all.take (all.length - behind.length)
      { builder with references := builder.references ++ [(key, target)],
                     skip := read.count '\n' }
  | _ => none

/-- Opens the block that starts here, behind containers and indentation. -/
def openLeaf (builder : Builder) (indent : Nat) (cursor : Cursor) (line : Line)
    (rest : List Line) : Builder :=
  let text := cursor.rest
  let html : Option (Option (List Char)) := match text with
    | '<' :: tag =>
      match Html.blockEnd? tag with
      | some closing => some (some closing)
      | none => if Html.startsBlock tag || Html.isWholeTag tag then some none else none
    | _ => none
  match html with
  | some closing => builder.addHtml line.number closing [] cursor line
  | none =>
    if isRuler text then builder.addNode (.ruler line.number)
    else if let some level := headingLevel? text then
      builder.addNode (.heading level line.number (headingText (text.drop level)))
    else if let some fence := fence? text then
      { builder with leaf := some (.fenced line.number fence indent []) }
    else if let some builder := builder.readDefinition? text rest then builder
    else
      match builder.tableColumns? text rest.head? with
      | some columns =>
        let header : Row := ⟨line.number, fitCells columns (rowCells text)⟩
        { builder with leaf := some (.table line.number columns header []), skip := 1 }
      | none => { builder with leaf := some (.paragraph line.number [text ++ line.ending]) }

/-- Reads a blank line.  An item that started with a blank line takes no more indentation from now
on. -/
def blankLine (builder : Builder) : Builder :=
  match builder.stack with
  | ⟨.quote, _⟩ :: _ => builder
  | ⟨.item _, children⟩ :: outer =>
    if builder.emptyItem then
      { builder with stack := ⟨.item 0, children⟩ :: outer, blankBefore := true }
    else { builder with blankBefore := true }
  | _ => { builder with blankBefore := true }

/-- Reads a line that continues no block. -/
def openLine (builder : Builder) (line : Line) (rest : List Line) : Builder :=
  let (count, cursor) := builder.enter line
  let (builder, cursor, finished) := (builder.popTo count).openContainers cursor
  if finished then builder
  else if isBlankRest cursor.rest then builder.blankLine
  else
    let builder := builder.finishList
    let (missing, indented) := cursor.pass 4
    if missing = 0 then
      { builder with leaf := some (.indented line.number [codePiece indented line] []),
                     blankBefore := false }
    else builder.openLeaf (4 - missing) indented line rest

/-! ## Pages -/

/-- Reads one line, given the lines behind it. -/
def step (builder : Builder) (line : Line) (rest : List Line) : Builder :=
  if 0 < builder.skip then { builder with skip := builder.skip - 1 }
  else
    match builder.continueLeaf? line rest.head? with
    | some builder => builder
    | none => builder.closeLeaf.openLine line rest

/-- Reads the lines of a page. -/
def readLines (builder : Builder) : List Line → Builder
  | [] => builder
  | line :: rest => (builder.step line rest).readLines rest

end Builder

/-- A page: its blocks and its reference definitions. -/
structure Document where
  nodes : List Node
  references : References

/-- The structure of a page. -/
def Document.read (text : String) : Document :=
  let builder := ((Builder.empty.readLines (Line.split text.toList)).closeLeaf).popTo 0
  ⟨builder.done.reverse, builder.references⟩

end DocAudit.Markdown
