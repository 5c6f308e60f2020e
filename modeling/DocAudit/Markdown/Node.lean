/-!
# The structure of a page

A page is a sequence of blocks.  Quotes and list items contain blocks themselves.  The text of
headings, paragraphs and cells is kept as it is written; it is read only when all reference
definitions of the page are known.
-/

namespace DocAudit.Markdown

/-- What a container is.  A list is tight if no blank line separates its items or the blocks
directly inside them; an item knows the width of its indentation. -/
inductive ContainerKind where
  | quote
  | list (mark : Char) (tight : Bool)
  | item (indent : Nat)
  deriving DecidableEq, Repr

/-- A row of a table: the line that it stands on, and its cells. -/
structure Row where
  line : Nat
  cells : List (List Char)
  deriving Repr

/-- A block of a page, with the line that it starts on. -/
inductive Node where
  | heading (level line : Nat) (text : List Char)
  | paragraph (line : Nat) (text : List Char)
  | code (line : Nat) (language : Option (List Char)) (text : List Char)
  | html (line : Nat) (text : List Char)
  | table (line : Nat) (header : Row) (rows : List Row)
  | ruler (line : Nat)
  | container (kind : ContainerKind) (children : List Node)
  deriving Repr, Inhabited

end DocAudit.Markdown
