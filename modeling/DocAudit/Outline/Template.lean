import DocAudit.Outline.Heading
import DocAudit.Text.EditDistance
import DocAudit.Text.Wildcard

/-!
# Templates of outlines

A template says which headings a page should have.  It is a list of slots, each for one heading or a
run of headings, and of groups: of the items of an `all` group every one counts, in order, and of a
`oneOf` group one is chosen by what the page has.

`Slot.fit?` compares a heading with a slot.  A heading fits exactly, or but for case, or it may be
misspelled.
-/

namespace DocAudit

mutual

/-- A part of a template. -/
inductive TemplateItem where
  | slot (slot : Slot)
  | all (items : List TemplateItem)
  | oneOf (items : List TemplateItem)

/-- A place for a heading of a level.  In its title a star stands for any text.  A slot that is
repeatable takes a run of headings. -/
structure Slot where
  level : Nat
  title : String
  required : Bool
  repeatable : Bool
  children : List TemplateItem

end

deriving instance Repr for TemplateItem, Slot

instance : Inhabited TemplateItem := ⟨.all []⟩

/-! ## Slots of a template -/

namespace TemplateItem

mutual

/-- All slots on the level of an item. -/
def slots : TemplateItem → List Slot
  | .slot own => [own]
  | .all items => slotsOfAll items
  | .oneOf items => slotsOfAll items

/-- All slots on the level of some items. -/
def slotsOfAll : List TemplateItem → List Slot
  | [] => []
  | item :: rest => item.slots ++ slotsOfAll rest

end

mutual

/-- The slots that may come first in an item. -/
def openers : TemplateItem → List Slot
  | .slot own => [own]
  | .all items => openersOfFirst items
  | .oneOf items => openersOfAll items

/-- The slots that may come first in the first item. -/
def openersOfFirst : List TemplateItem → List Slot
  | [] => []
  | item :: _ => item.openers

/-- The slots that may come first in one of some items. -/
def openersOfAll : List TemplateItem → List Slot
  | [] => []
  | item :: rest => item.openers ++ openersOfAll rest

end

end TemplateItem

/-! ## How well a heading fits -/

/-- How a heading fits a slot, the best way first. -/
inductive Fit where
  | exact
  | wrongCase
  | misspelled
  deriving DecidableEq, Repr

namespace Fit

/-- The better of two fits. -/
def better : Fit → Fit → Fit
  | exact, _ | _, exact => exact
  | wrongCase, _ | _, wrongCase => wrongCase
  | misspelled, misspelled => misspelled

/-- The best of some fits. -/
def best? (fits : List Fit) : Option Fit :=
  fits.foldl (fun best fit => some (best.elim fit (better · fit))) none

end Fit

/-- Titles nearer than this are taken for misspellings of each other. -/
def misspellingDistance : Nat := 3

/-- How a title fits the title of a slot. -/
def titleFit? (pattern title : List Char) : Option Fit :=
  if Text.wildcardMatch pattern title then some .exact
  else if Text.wildcardMatchIgnoringCase pattern title then some .wrongCase
  else if !pattern.contains '*' &&
      Text.editDistance (Text.lower pattern) (Text.lower title) < misspellingDistance then
    some .misspelled
  else none

/-- How a heading fits a slot. -/
def Slot.fit? (slot : Slot) (tree : HeadingTree) : Option Fit :=
  if slot.level = tree.level then titleFit? slot.title.toList tree.title.toList else none

/-- Whether a heading fits a slot in some way. -/
def Slot.fits (slot : Slot) (tree : HeadingTree) : Bool :=
  (slot.fit? tree).isSome

/-! ## Choice in a group -/

/-- The best fit of one of the headings to one of the slots that an item may open with. -/
def TemplateItem.openingFit? (item : TemplateItem) (found : List HeadingTree) : Option Fit :=
  Fit.best? (item.openers.flatMap fun slot => found.filterMap slot.fit?)

/-- The position of the item that is chosen among the items of a group for the headings that are
left: the first of those whose opening fits best, or the very first if no opening fits. -/
def TemplateItem.choice (items : List TemplateItem) (found : List HeadingTree) : Nat :=
  match Fit.best? (items.filterMap (·.openingFit? found)) with
  | some fit => items.findIdx fun item => item.openingFit? found == some fit
  | none => 0

end DocAudit
