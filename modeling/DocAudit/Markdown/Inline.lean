/-!
# Running text

The text of a heading or paragraph as a reader sees it: markers of emphasis are gone, and links and
images stand where they were with the text that they show.
-/

namespace DocAudit.Markdown

/-- A piece of running text.  A link knows the line that it starts on. -/
inductive Inline where
  | text (chars : List Char)
  | code (chars : List Char)
  | lineBreak
  | html (chars : List Char)
  | link (target : List Char) (line : Nat) (content : List Inline)
  | image (content : List Inline)
  deriving Repr, Inhabited

/-- A link as it is found on a page: its target, and the line that it starts on. -/
structure Link where
  target : String
  line : Nat
  deriving DecidableEq, Repr

mutual

/-- The characters that a piece shows. -/
def Inline.shown : Inline → List Char
  | .text chars => chars
  | .code chars => chars
  | .lineBreak => ['\n']
  | .html chars => chars
  | .link _ _ content => Inline.shownAll content
  | .image content => Inline.shownAll content

/-- The characters that pieces show one after the other. -/
def Inline.shownAll : List Inline → List Char
  | [] => []
  | piece :: rest => piece.shown ++ Inline.shownAll rest

end

mutual

/-- The links in a piece, in the order in which they start. -/
def Inline.links : Inline → List Link
  | .link target line content => ⟨.ofList target, line⟩ :: Inline.linksAll content
  | .image content => Inline.linksAll content
  | _ => []

/-- The links in pieces, in the order in which they start. -/
def Inline.linksAll : List Inline → List Link
  | [] => []
  | piece :: rest => piece.links ++ Inline.linksAll rest

end

end DocAudit.Markdown
