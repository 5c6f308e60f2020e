import DocAudit.Markdown.Builder
import DocAudit.Markdown.Inline.Reader
import DocAudit.Page.Block

/-!
# From Markdown to blocks

The structure of a page is flattened: blocks inside lists and quotes are blocks like all others,
with one exception.  The items of a tight list have no paragraphs of their own, so their text gives
no block.  Links are collected separately, since the text of a block no longer shows where they
lead.
-/

namespace DocAudit

open Markdown

/-- The text that a reader sees of a heading or paragraph. -/
def shownText (references : References) (line : Nat) (text : List Char) : String :=
  .ofList (Text.trim (Inline.shownAll (Inline.read references line text)))

/-- The cells of a row as they are kept in a table. -/
def rowContent (row : Row) : List String :=
  row.cells.map fun cell => .ofList (cellText cell)

/-- The block of a table. -/
def tableBlock (line : Nat) (header : Row) (rows : List Row) : Block :=
  let headers := rowContent header
  { kind := .table ⟨headers, rows.map rowContent⟩
    content := " | ".intercalate headers
    line := line
    language := none }

/-- The block of an HTML block: a comment, if it starts like one. -/
def htmlBlock (line : Nat) (text : List Char) : Block :=
  let isComment := "<!--".toList.isPrefixOf (Text.trimStart text)
  { kind := if isComment then .comment else .other
    content := .ofList (Text.trim text)
    line := line
    language := none }

mutual

/-- The blocks of a part of a page.  The paragraphs directly inside an item of a tight list give
none. -/
def blocksOf (references : References) (tight : Bool) : Node → List Block
  | .heading level line text => [⟨.heading level, shownText references line text, line, none⟩]
  | .paragraph line text =>
    if tight then [] else [⟨.paragraph, shownText references line text, line, none⟩]
  | .code line language text => [⟨.code, .ofList text, line, language.map String.ofList⟩]
  | .html line text => [htmlBlock line text]
  | .table line header rows => [tableBlock line header rows]
  | .ruler line => [⟨.other, "---", line, none⟩]
  | .container (.list _ tight) items => blocksOfAll references tight items
  | .container (.item _) children => blocksOfAll references tight children
  | .container .quote children => blocksOfAll references false children

/-- The blocks of parts of a page one after the other. -/
def blocksOfAll (references : References) (tight : Bool) : List Node → List Block
  | [] => []
  | node :: rest => blocksOf references tight node ++ blocksOfAll references tight rest

end

/-- The blocks of a page of Markdown. -/
def readBlocks (text : String) : List Block :=
  let document := Document.read text
  blocksOfAll document.references false document.nodes

/-! ## Links -/

/-- The links in a row of a table. -/
def rowLinks (references : References) (row : Row) : List Link :=
  row.cells.flatMap fun cell => Inline.linksAll (Inline.read references row.line (Text.trim cell))

mutual

/-- The links in a part of a page. -/
def linksOf (references : References) : Node → List Link
  | .heading _ line text => Inline.linksAll (Inline.read references line text)
  | .paragraph line text => Inline.linksAll (Inline.read references line text)
  | .table _ header rows => rowLinks references header ++ rows.flatMap (rowLinks references)
  | .container _ children => linksOfAll references children
  | _ => []

/-- The links in parts of a page one after the other. -/
def linksOfAll (references : References) : List Node → List Link
  | [] => []
  | node :: rest => linksOf references node ++ linksOfAll references rest

end

/-- The links of a page of Markdown, in the order in which they start. -/
def readLinks (text : String) : List Link :=
  let document := Document.read text
  linksOfAll document.references document.nodes

end DocAudit
