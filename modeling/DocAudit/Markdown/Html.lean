import DocAudit.Markdown.Line
import DocAudit.Text.Split

/-!
# HTML in Markdown

Tags, comments, processing instructions, declarations and character data are passed through inside a
text (`readHtml?`).  At the start of a line they may open a block that runs to a closing mark
(`blockEnd?`) or to the next blank line (`startsBlock`, `isWholeTag`).  All functions here read
behind the opening angle bracket.
-/

namespace DocAudit.Markdown.Html

/-! ## Tags -/

/-- Whether a character is white space in a tag. -/
def isTagSpace (c : Char) : Bool :=
  isLineSpace c || c == '\n' || c == '\r'

/-- A text without the white space at its start. -/
def skipSpace (text : List Char) : List Char :=
  text.dropWhile isTagSpace

/-- Whether a character may stand in the name of a tag behind its first letter. -/
def isTagChar (c : Char) : Bool :=
  c.isAlphanum || c == '-'

/-- Whether a character may start the name of an attribute. -/
def isAttributeStart (c : Char) : Bool :=
  c.isAlpha || c == '_' || c == ':'

/-- Whether a character may stand in the name of an attribute. -/
def isAttributeChar (c : Char) : Bool :=
  isAttributeStart c || c.isDigit || c == '.' || c == '-'

/-- Whether a character may stand in an attribute value without quotes. -/
def isBareValueChar (c : Char) : Bool :=
  !(isTagSpace c || "\"'=<>`".toList.contains c)

/-- Reads the name of a tag; gives the rest. -/
def readTagName? (text : List Char) : Option (List Char) :=
  match text with
  | c :: rest => if c.isAlpha then some (rest.dropWhile isTagChar) else none
  | [] => none

/-- Reads the value of an attribute; gives the rest. -/
def readAttributeValue? (text : List Char) : Option (List Char) :=
  match text with
  | '"' :: rest => (Text.cutFirst '"' rest).map (·.2)
  | '\'' :: rest => (Text.cutFirst '\'' rest).map (·.2)
  | c :: _ => if isBareValueChar c then some (text.dropWhile isBareValueChar) else none
  | [] => none

/-- Reads attributes up to the end of an opening tag; gives the rest behind it. -/
def readAttributes? (text : List Char) : Option (List Char) :=
  match skipSpace text with
  | '>' :: rest => some rest
  | '/' :: '>' :: rest => some rest
  | c :: rest =>
    let spaced := (text.takeWhile isTagSpace) != []
    if spaced && isAttributeStart c then
      let behind := rest.dropWhile isAttributeChar
      let next := match skipSpace behind with
        | '=' :: value => readAttributeValue? (skipSpace value)
        | _ => some behind
      match next with
      | some next => if next.length < text.length then readAttributes? next else none
      | none => none
    else none
  | [] => none
termination_by text.length

/-- Reads an opening or closing tag; gives the rest behind it. -/
def readTag? (text : List Char) : Option (List Char) :=
  match text with
  | '/' :: name =>
    match (readTagName? name).map skipSpace with
    | some ('>' :: rest) => some rest
    | _ => none
  | _ => (readTagName? text).bind readAttributes?

/-- Reads a tag, comment, processing instruction, declaration or character data inside a text; gives
the number of characters read. -/
def readHtml? (text : List Char) : Option Nat :=
  let behind (mark : String) (body : List Char) := (Text.cutAround mark.toList body).map (·.2)
  let rest := match text with
    | '!' :: '-' :: '-' :: '>' :: rest => some rest
    | '!' :: '-' :: '-' :: '-' :: '>' :: rest => some rest
    | '!' :: '-' :: '-' :: body => behind "-->" body
    | '!' :: '[' :: 'C' :: 'D' :: 'A' :: 'T' :: 'A' :: '[' :: body => behind "]]>" body
    | '!' :: c :: body => if c.isAlpha then behind ">" body else none
    | '?' :: body => behind "?>" body
    | _ => readTag? text
  rest.map fun rest => text.length - rest.length

/-! ## Blocks -/

/-- The elements whose block runs to their closing tag. -/
def rawElements : List String :=
  ["pre", "style", "script", "textarea"]

/-- The elements that open a block that runs to the next blank line. -/
def blockElements : List String :=
  ["address", "article", "aside", "base", "basefont", "blockquote", "body", "caption", "center",
   "col", "colgroup", "dd", "details", "dialog", "dir", "div", "dl", "dt", "fieldset",
   "figcaption", "figure", "footer", "form", "frame", "frameset", "h1", "h2", "h3", "h4", "h5",
   "h6", "head", "header", "hr", "html", "iframe", "legend", "li", "link", "main", "menu",
   "menuitem", "nav", "noframes", "ol", "optgroup", "option", "p", "param", "search", "section",
   "summary", "table", "tbody", "td", "tfoot", "th", "thead", "title", "tr", "track", "ul"]

/-- The mark that ends a block, if the block runs to such a mark. -/
def blockEnd? (text : List Char) : Option (List Char) :=
  let raw := rawElements.find? fun name =>
    let size := name.length
    (text.take size).map Char.toLower == name.toList &&
      match text[size]? with
      | none => true
      | some c => isTagSpace c || c == '>'
  match raw, text with
  | some name, _ => some ("</".toList ++ name.toList ++ ['>'])
  | none, '!' :: '-' :: '-' :: _ => some "-->".toList
  | none, '?' :: _ => some "?>".toList
  | none, '!' :: c :: _ =>
    if "![CDATA[".toList.isPrefixOf text then some "]]>".toList
    else if c.isAlpha then some ['>']
    else none
  | none, _ => none

/-- Whether a tag of a block element starts here. -/
def startsBlock (text : List Char) : Bool :=
  let body := match text with
    | '/' :: rest => rest
    | _ => text
  let name := body.takeWhile Char.isAlphanum
  let element := String.ofList (name.map Char.toLower)
  blockElements.contains element &&
    match body.drop name.length with
    | [] => true
    | '/' :: '>' :: _ => true
    | c :: _ => isSpace c || c == '>'

/-- Whether the rest of the line is one whole tag. -/
def isWholeTag (text : List Char) : Bool :=
  match readTag? text with
  | some rest => isBlankRest rest
  | none => false

end DocAudit.Markdown.Html
