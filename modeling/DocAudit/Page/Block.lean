import DocAudit.Text.Split

/-!
# The blocks of a page

Checking looks at a page as a flat sequence of blocks: how lists and quotes nest does not matter.  A
table keeps the text of its cells as it is written; `cellContent` takes the marks off a cell.
-/

namespace DocAudit

/-! ## Cells -/

/-- A text without one layer of markers of emphasis around it, if something is left. -/
def unemphasized? (text : List Char) : Option (List Char) :=
  let inside (mark : List Char) : Option (List Char) :=
    (mark.isPrefixOf? text).bind (mark.isSuffixOf? ·)
  (inside ['*', '*'] <|> inside ['_', '_'] <|> inside ['*'] <|> inside ['_']).filter
    (!·.isEmpty)

/-- A text without any markers of emphasis around it.  At most `layers` are taken off. -/
def withoutEmphasis : Nat → List Char → List Char
  | 0, text => text
  | layers + 1, text =>
    match unemphasized? text with
    | some inner => withoutEmphasis layers (Text.trim inner)
    | none => text

/-- A cell without space and bars around it, with its line breaks as spaces. -/
def unframed (cell : List Char) : List Char :=
  ["<br/>", "<br />", "<br>"].foldl (fun text mark => Text.replaceAll mark.toList [' '] text)
    (Text.trim (Text.trimBy (· == '|') (Text.trim cell)))

/-- What a cell says: no space, bars and emphasis around it, no backticks in it, and spaces for its
line breaks.  Links stay as they are written, because a type may be given as a link. -/
def bareCell (cell : List Char) : List Char :=
  let text := Text.trim ((unframed cell).filter (· != '\x60'))
  withoutEmphasis text.length text

/-- What a cell says, as a string. -/
def cellContent (cell : String) : String :=
  .ofList (bareCell cell.toList)

/-! What a cell says is no longer than the cell. -/

theorem length_unemphasized_le {text inner : List Char} (taken : unemphasized? text = some inner) :
    inner.length ≤ text.length := by
  have inside {mark : List Char}
      (h : (mark.isPrefixOf? text).bind (mark.isSuffixOf? ·) = some inner) :
      inner.length ≤ text.length := by
    obtain ⟨rest, start, finish⟩ := Option.bind_eq_some_iff.1 h
    rw [Text.eq_append_of_isPrefixOf? start, Text.eq_append_of_isSuffixOf? finish]
    simp only [List.length_append]
    omega
  simp only [unemphasized?, Option.filter_eq_some_iff, Option.orElse_eq_orElse,
    Option.orElse_eq_or, Option.or_eq_some_iff] at taken
  grind

theorem length_withoutEmphasis_le (layers : Nat) (text : List Char) :
    (withoutEmphasis layers text).length ≤ text.length := by
  fun_induction withoutEmphasis layers text with
  | case1 => exact Nat.le_refl _
  | case2 _ _ inner taken ih =>
    exact Nat.le_trans ih (Nat.le_trans (Text.length_trim_le inner) (length_unemphasized_le taken))
  | case3 => exact Nat.le_refl _

theorem length_unframed_le (cell : List Char) : (unframed cell).length ≤ cell.length := by
  have replaced (mark : String) (long : 1 ≤ mark.toList.length) (text : List Char) :
      (Text.replaceAll mark.toList [' '] text).length ≤ text.length :=
    Text.length_replaceAll_le (show [' '].length ≤ mark.toList.length from long) text
  simp only [unframed, List.foldl_cons, List.foldl_nil]
  refine Nat.le_trans (replaced _ (by decide) _) (Nat.le_trans (replaced _ (by decide) _)
    (Nat.le_trans (replaced _ (by decide) _) ?_))
  exact Nat.le_trans (Text.length_trim_le _) (Nat.le_trans (Text.length_trimBy_le _ _)
    (Text.length_trim_le cell))

theorem length_bareCell_le (cell : List Char) : (bareCell cell).length ≤ cell.length :=
  Nat.le_trans (length_withoutEmphasis_le _ _) (Nat.le_trans (Text.length_trim_le _)
    (Nat.le_trans (List.length_filter_le _ _) (length_unframed_le cell)))

/-! ## Tables -/

/-- The cells of a table as they are written. -/
structure TableShape where
  headers : List String
  rows : List (List String)
  deriving DecidableEq, Repr

/-- Whether the header of a column is one of the words for it. -/
def isHeader (word header : String) : Bool :=
  Text.equalIgnoringAsciiCase (cellContent header).toList (Text.trim word.toList)

/-- The first column with one of the words as its header.  The words are tried in order, so a table
with several such columns is read by the earliest word. -/
def TableShape.column? (shape : TableShape) (words : List String) : Option Nat :=
  words.findSome? fun word => shape.headers.findIdx? (isHeader word)

/-! ## Blocks -/

/-- What a block is. -/
inductive BlockKind where
  | heading (level : Nat)
  | paragraph
  | code
  | comment
  | table (shape : TableShape)
  | other
  deriving DecidableEq, Repr

/-- A block of a page: what it is, its text, the line that it starts on, and the language of a block
of code, if it is given. -/
structure Block where
  kind : BlockKind
  content : String
  line : Nat
  language : Option String
  deriving DecidableEq, Repr

namespace Block

/-- Whether a block is code. -/
def isCode (block : Block) : Bool :=
  block.kind == .code

/-- Whether a block is a comment. -/
def isComment (block : Block) : Bool :=
  block.kind == .comment

/-- Whether a block is code in JSON. -/
def isJson (block : Block) : Bool :=
  block.isCode && block.language.any fun language =>
    Text.equalIgnoringAsciiCase language.toList "json".toList

end Block

end DocAudit
