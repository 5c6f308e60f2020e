import DocAudit.Markdown.Line

/-!
# What starts a block

The marks at the start of a line that open a block: rulers, headings, fences of code, marks of list
items and quotes, and the underline that turns a paragraph into a heading.  All functions look at a
line behind its containers and its indentation.
-/

namespace DocAudit.Markdown

/-! ## Lines of marks -/

/-- Whether a line is a ruler: at least three equal marks and nothing else but space. -/
def isRuler (text : List Char) : Bool :=
  match text with
  | c :: _ =>
    (c == '*' || c == '-' || c == '_') && text.all (fun x => x == c || isSpace x) &&
      3 ≤ text.count c
  | [] => false

/-- The level of the heading that a line of equals signs or dashes makes of the paragraph above
it. -/
def underlineLevel? (text : List Char) : Option Nat :=
  match text with
  | c :: _ =>
    if (c == '=' || c == '-') && isBlankRest (text.dropWhile (· == c)) then
      some (if c == '=' then 1 else 2)
    else none
  | [] => none

/-! ## Headings -/

/-- The level of a heading that starts with number signs. -/
def headingLevel? (text : List Char) : Option Nat :=
  let level := (text.takeWhile (· == '#')).length
  let spaced := match text[level]? with
    | none => true
    | some c => isLineSpace c
  if 1 ≤ level && level ≤ 6 && spaced then some level else none

/-- The text of a heading behind its number signs.  Number signs at its end belong to it only if no
space stands before them. -/
def headingText (body : List Char) : List Char :=
  let text := body.dropWhile isLineSpace
  let text := (text.reverse.dropWhile (· == ' ')).reverse
  let open_ := (text.reverse.dropWhile (· == '#')).reverse
  if open_.isEmpty then []
  else if open_.getLast? == some ' ' then (open_.reverse.dropWhile (· == ' ')).reverse
  else text

/-! ## Code fences -/

/-- A fence: its mark, how often it is repeated, and the text behind it. -/
structure Fence where
  mark : Char
  count : Nat
  info : List Char

/-- The fence that opens a block of code: at least three tildes, or three backticks with no further
backtick in the line. -/
def fence? (text : List Char) : Option Fence :=
  match text with
  | c :: _ =>
    let count := (text.takeWhile (· == c)).length
    let info := text.drop count
    if (c == '~' || (c == '\x60' && !info.contains c)) && 3 ≤ count then some ⟨c, count, info⟩
    else none
  | [] => none

/-- Whether a line closes a block of code: the marks of its fence, at least as many, and no more. -/
def Fence.isClosedBy (fence : Fence) (text : List Char) : Bool :=
  let count := (text.takeWhile (· == fence.mark)).length
  fence.count ≤ count && isBlankRest (text.drop count)

/-! ## List items -/

/-- A mark of a list item: its last character, the number before that, and its width. -/
structure ItemMark where
  mark : Char
  number : Nat
  width : Nat

/-- The mark of a list item at the start of a text.  Numbers have at most nine digits; a space or
the end of the line follows the mark. -/
def itemMark? (text : List Char) : Option ItemMark :=
  let spaced (rest : List Char) : Bool := match rest with
    | [] => true
    | c :: _ => isSpace c
  match text with
  | [] => none
  | c :: rest =>
    if c == '-' || c == '+' || c == '*' then
      (if spaced rest && !isRuler text then some ⟨c, 0, 1⟩ else none)
    else
      let digits := text.takeWhile Char.isDigit
      match text.drop digits.length with
      | mark :: rest =>
        if (mark == '.' || mark == ')') && !digits.isEmpty && digits.length ≤ 9 && spaced rest then
          some ⟨mark, digits.foldl (fun n d => 10 * n + (d.toNat - '0'.toNat)) 0,
            digits.length + 1⟩
        else none
      | [] => none

/-- Whether the mark of a list item may interrupt a paragraph of the same containers: only a bullet
or the number one may, and only if the item does not start with a blank line. -/
def ItemMark.mayInterrupt (mark : ItemMark) (text : List Char) : Bool :=
  (mark.mark == '-' || mark.mark == '+' || mark.mark == '*' || mark.number == 1) &&
    !isBlankRest (text.drop mark.width)

end DocAudit.Markdown
