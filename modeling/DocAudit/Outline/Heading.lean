/-!
# Headings of a page

The headings of a page form a forest: a heading belongs to the nearest heading before it that is of
a lower level, and a heading of the first level belongs to none.  `Outline` keeps track of the
headings that are open while a page is read, and `HeadingTree.forest` puts the headings of a whole
page together.
-/

namespace DocAudit

/-- A heading with its level and the line that it stands on. -/
structure Heading where
  level : Nat
  title : String
  line : Nat
  deriving DecidableEq, Repr, Inhabited

/-- Whether a heading may be open above a later one. -/
def Heading.isAbove (heading later : Heading) : Bool :=
  heading.level < later.level && 1 < later.level

/-! ## Trees -/

/-- A heading with the headings below it. -/
inductive HeadingTree where
  | node (heading : Heading) (children : List HeadingTree)
  deriving Repr, Inhabited

namespace HeadingTree

/-- The heading at the top. -/
def heading : HeadingTree → Heading
  | node heading _ => heading

/-- The trees below the heading. -/
def children : HeadingTree → List HeadingTree
  | node _ children => children

/-- The level of the heading. -/
def level (tree : HeadingTree) : Nat := tree.heading.level

/-- The title of the heading. -/
def title (tree : HeadingTree) : String := tree.heading.title

/-- The line of the heading. -/
def line (tree : HeadingTree) : Nat := tree.heading.line

/-- The trees of some headings in order.  The first trees of the headings that follow belong to a
heading as long as it may be open above them. -/
def forest : List Heading → List HeadingTree
  | [] => []
  | heading :: rest =>
    let below (tree : HeadingTree) : Bool := heading.isAbove tree.heading
    node heading ((forest rest).takeWhile below) :: (forest rest).dropWhile below

mutual

/-- The headings of a tree, each before those below it. -/
def headings : HeadingTree → List Heading
  | node heading children => heading :: headingsOfAll children

/-- The headings of trees one after the other. -/
def headingsOfAll : List HeadingTree → List Heading
  | [] => []
  | tree :: rest => tree.headings ++ headingsOfAll rest

end

end HeadingTree

/-! ## Open headings -/

/-- A heading of an outline, and the position of the heading that it belongs to. -/
structure OutlineEntry where
  heading : Heading
  parent : Option Nat
  deriving DecidableEq, Repr

/-- The headings read so far, and those of them that are open, from the latest outwards, with their
positions. -/
structure Outline where
  entries : List OutlineEntry
  path : List (Nat × Heading)
  deriving Repr

namespace Outline

/-- No headings. -/
def empty : Outline := ⟨[], []⟩

/-- The open headings that stay open above a later heading. -/
def openAbove (outline : Outline) (heading : Heading) : List (Nat × Heading) :=
  outline.path.dropWhile fun (_, before) => !before.isAbove heading

/-- Adds the next heading. -/
def push (outline : Outline) (heading : Heading) : Outline :=
  let path := outline.openAbove heading
  { entries := outline.entries ++ [⟨heading, path.head?.map (·.1)⟩]
    path := (outline.entries.length, heading) :: path }

/-- The outline of some headings in order. -/
def ofHeadings (headings : List Heading) : Outline :=
  headings.foldl push empty

/-- All headings in order. -/
def headings (outline : Outline) : List Heading :=
  outline.entries.map (·.heading)

/-- The titles of the open headings, the latest first. -/
def openTitles (outline : Outline) : List String :=
  outline.path.map fun (_, heading) => heading.title

/-- The positions of the headings that belong to no other one. -/
def roots (outline : Outline) : List Nat :=
  (List.range outline.entries.length).filter fun position =>
    outline.entries[position]?.any (·.parent.isNone)

/-- The titles of the heading at a position and of all headings above it, from the heading outwards.
A heading stands behind the one that it belongs to. -/
def ancestry (outline : Outline) (position : Nat) : List String :=
  match outline.entries[position]? with
  | none => []
  | some entry =>
    entry.heading.title ::
      match entry.parent with
      | some parent => if parent < position then outline.ancestry parent else []
      | none => []
termination_by position

/-- The trees of the headings. -/
def trees (outline : Outline) : List HeadingTree :=
  HeadingTree.forest outline.headings

end Outline

end DocAudit
