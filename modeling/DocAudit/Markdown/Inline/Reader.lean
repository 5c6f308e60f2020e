import DocAudit.Markdown.Inline.Emphasis
import DocAudit.Markdown.LinkTarget

/-!
# Reading running text

A text is read from left to right.  Code, links in angle brackets and HTML are taken whole, so no
marker inside them counts.  An opening bracket is remembered; at a closing bracket the text since
the latest one becomes a link or an image if a target follows or if its label is defined on the
page.
-/

namespace DocAudit.Markdown

/-! ## Code -/

/-- The backtick, which starts and ends code. -/
def backtick : Char := '\x60'

/-- Looks for a run of exactly `count` backticks, where `run` backticks stand directly before the
text and `content` is what was passed before those, latest first.  Gives the content and the
characters read. -/
def findCodeEnd? (count : Nat) : Nat → List Char → List Char → Option (List Char)
  | run, content, [] => if run = count then some content.reverse else none
  | run, content, c :: rest =>
    if c == backtick then findCodeEnd? count (run + 1) content rest
    else if run = count then some content.reverse
    else findCodeEnd? count 0 (c :: (List.replicate run backtick ++ content)) rest

/-- The content of code: line breaks are spaces, and one space is taken off either end if there is
one at both and not all is space. -/
def codeContent (raw : List Char) : List Char :=
  let flat := raw.map fun c => if c == '\n' || c == '\r' then ' ' else c
  if flat.head? == some ' ' && flat.getLast? == some ' ' && !flat.all (· == ' ') then
    (flat.drop 1).dropLast
  else flat

/-! ## Links in angle brackets -/

/-- Reads an address with a scheme behind an opening angle bracket: the address, which ends before a
closing one. -/
def readUri? (text : List Char) : Option (List Char) :=
  let isSchemeChar (c : Char) := c.isAlphanum || c == '.' || c == '-' || c == '+'
  let scheme := text.takeWhile isSchemeChar
  let uri := text.takeWhile fun c => 0x20 < c.toNat && c != '<' && c != '>'
  if (text.head?.any Char.isAlpha) && 2 ≤ scheme.length && scheme.length ≤ 32 &&
      text[scheme.length]? == some ':' && text[uri.length]? == some '>' then some uri
  else none

/-- Whether a text is a part of a host name between two points. -/
def isHostLabel (label : List Char) : Bool :=
  label.all (fun c => c.isAlphanum || c == '-') && label.head?.any Char.isAlphanum &&
    label.getLast?.any Char.isAlphanum && label.length ≤ 63

/-- Reads a mail address behind an opening angle bracket. -/
def readMailAddress? (text : List Char) : Option (List Char) :=
  let address := text.takeWhile (· != '>')
  match Text.cutFirst '@' address with
  | some (user, host) =>
    if !user.isEmpty &&
        user.all (fun c => c.isAlphanum || ".!#$%&'*+/=?^_\x60\x7b|\x7d~-".toList.contains c) &&
        (Text.splitAt '.' host).all isHostLabel && text[address.length]? == some '>' then
      some address
    else none
  | none => none

/-! ## Brackets -/

/-- An opening bracket: whether it starts an image, whether it may still start a link, its line, the
text behind it, and the pieces before it, latest first. -/
structure Bracket where
  image : Bool
  active : Bool
  line : Nat
  behind : List Char
  before : List Piece

/-- What has been read of a text: the pieces since the latest bracket, latest first, the brackets,
the line reached, and the character before this place. -/
structure InlineState where
  pieces : List Piece
  brackets : List Bracket
  line : Nat
  previous : Option Char

namespace InlineState

/-- Adds a piece that ends in the character `last`. -/
def add (state : InlineState) (piece : Inline) (last : Char) : InlineState :=
  { state with pieces := .plain piece :: state.pieces, previous := some last }

/-- Adds text. -/
def addText (state : InlineState) (chars : List Char) : InlineState :=
  match chars.getLast? with
  | some last => state.add (.text chars) last
  | none => state

/-- Adds the number of line feeds in what was read to the line. -/
def passLines (state : InlineState) (read : List Char) : InlineState :=
  { state with line := state.line + read.count '\n' }

/-- The pieces before a bracket, the bracket as text, and the pieces behind it. -/
def asText (bracket : Bracket) (pieces : List Piece) : List Piece :=
  pieces ++ .plain (.text (if bracket.image then ['!', '['] else ['['])) :: bracket.before

/-- The target that a closing bracket leads to, and how many characters behind it were read. -/
def target? (references : References) (bracket : Bracket) (rest : List Char) :
    Option (List Char × Nat) :=
  match readInlineTarget? rest with
  | some found => some found
  | none =>
    let own := bracket.behind.take (bracket.behind.length - rest.length - 1)
    let ownLabel := (readLabel? ('[' :: own ++ [']'])).filter (·.2.isEmpty) |>.map (·.1)
    let defined (label : List Char) (count : Nat) :=
      (references.lookup (labelKey label)).map fun target => (target, count)
    match rest with
    | '[' :: ']' :: _ => ownLabel.bind fun label => defined label 2
    | _ =>
      match readLabel? rest with
      | some (label, behind) => defined label (rest.length - behind.length)
      | none => ownLabel.bind fun label => defined label 0

/-- Reads a closing bracket: gives the state behind it and the number of further characters read. -/
def close (references : References) (state : InlineState) (rest : List Char) :
    InlineState × Nat :=
  match state.brackets with
  | [] => (state.addText [']'], 0)
  | bracket :: outer =>
    let plain : InlineState :=
      { state with pieces := asText bracket state.pieces, brackets := outer }
    if !bracket.active then (plain.addText [']'], 0)
    else
      match target? references bracket rest with
      | none => (plain.addText [']'], 0)
      | some (target, count) =>
        let content := settle state.pieces.reverse
        let read := rest.take count
        let piece : Inline :=
          if bracket.image then .image content else .link target bracket.line content
        let outer :=
          if bracket.image then outer
          else outer.map fun b => if b.image then b else { b with active := false }
        let state : InlineState :=
          { state with pieces := .plain piece :: bracket.before, brackets := outer,
                       previous := some (read.getLastD ']') }
        (state.passLines read, count)

/-- All pieces, where brackets that were never closed are text. -/
def finish (state : InlineState) : List Piece :=
  (state.brackets.foldl (fun pieces bracket => asText bracket pieces) state.pieces).reverse

end InlineState

/-! ## The text -/

/-- Whether a character is never more than itself. -/
def isOrdinary (c : Char) : Bool :=
  !("\\&<![]*_~\n\r".toList.contains c || c == backtick)

/-- Reads what starts with the character `c`: gives the state behind it and the number of further
characters read. -/
def readPiece (references : References) (state : InlineState) (c : Char) (rest : List Char) :
    InlineState × Nat :=
  match c with
  | '\\' =>
    match rest with
    | '\n' :: _ | '\r' :: _ => (state, 0)
    | e :: _ => if Text.isAsciiPunctuation e then (state.addText [e], 1) else (state.addText [c], 0)
    | [] => (state.addText [c], 0)
  | '\n' | '\r' =>
    let feed := if c == '\r' then rest.take 1 == ['\n'] else false
    let behind := if feed then rest.drop 1 else rest
    let indent := (behind.takeWhile isSpace).length
    let read := c :: (if feed then ['\n'] else [])
    ((state.add .lineBreak '\n').passLines read, (read.length - 1) + indent)
  | '&' =>
    match readEntity? rest with
    | some (chars, count) => (state.add (.text chars) ';', count)
    | none => (state.addText [c], 0)
  | '<' =>
    match readUri? rest, readMailAddress? rest with
    | some uri, _ | none, some uri =>
      (state.add (.link uri state.line [.text uri]) '>', uri.length + 1)
    | none, none =>
      match Html.readHtml? rest with
      | some count =>
        let read := rest.take count
        ((state.add (.html (c :: read)) '>').passLines read, count)
      | none => (state.addText [c], 0)
  | '!' =>
    match rest with
    | '[' :: behind =>
      ({ state with pieces := [], previous := some '['
                    brackets := ⟨true, true, state.line, behind, state.pieces⟩ :: state.brackets },
        1)
    | _ => (state.addText [c], 0)
  | '[' =>
    ({ state with pieces := [], previous := some c
                  brackets := ⟨false, true, state.line, rest, state.pieces⟩ :: state.brackets }, 0)
  | ']' => state.close references rest
  | '*' | '_' | '~' =>
    let more := (rest.takeWhile (· == c)).length
    let count := more + 1
    let after := rest[more]?
    let opens := MarkerRun.mayOpen c count state.previous after
    let closes := MarkerRun.mayClose c count state.previous after
    if (opens || closes) && (c != '~' || count ≤ 2) then
      ({ state with pieces := .run ⟨c, count, opens, closes⟩ :: state.pieces, previous := some c },
        more)
    else (state.addText (List.replicate count c), more)
  | _ =>
    if c == backtick then
      let more := (rest.takeWhile (· == backtick)).length
      match findCodeEnd? (more + 1) 0 [] (rest.drop more) with
      | some raw =>
        let read := more + raw.length + more + 1
        ((state.add (.code (codeContent raw)) backtick).passLines raw, read)
      | none => (state.addText (List.replicate (more + 1) backtick), more)
    else
      let run := c :: rest.takeWhile isOrdinary
      let endsLine := match rest.drop (run.length - 1) with
        | '\n' :: _ | '\r' :: _ => true
        | _ => false
      let shown := if endsLine then Text.trimEndBy isLineSpace run else run
      ({ state with pieces := .plain (.text shown) :: state.pieces, previous := run.getLast? },
        run.length - 1)

/-- Reads a text from a state on. -/
def readPieces (references : References) (state : InlineState) : List Char → InlineState
  | [] => state
  | c :: rest =>
    let (state, count) := readPiece references state c rest
    readPieces references state (rest.drop count)
termination_by text => text.length
decreasing_by simp only [List.length_drop, List.length_cons]; omega

/-- The running text of a source text that starts on a line. -/
def Inline.read (references : References) (line : Nat) (text : List Char) : List Inline :=
  settle (readPieces references ⟨[], [], line, none⟩ text).finish

end DocAudit.Markdown
