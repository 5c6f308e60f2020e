import DocAudit.Issue.Audit
import DocAudit.Outline.Template

/-!
# Comparing a page with a template

On each level the slots of the template are met in order with the headings of the page.  A slot
looks for the next heading that fits it; headings passed over on the way are out of place.  If no
heading fits, the slot takes none, and this is an error if it is required.  Headings left at the end
are extra.  The headings below a heading that took a slot are compared with the children of the
slot, if it has any.
-/

namespace DocAudit

/-! ## Slots and headings -/

/-- How the headings of a level meet a slot: some are passed over, some take the slot, and the rest
is left. -/
structure Meeting where
  passed : List HeadingTree
  taken : List HeadingTree
  rest : List HeadingTree

/-- How headings meet a slot. -/
def Slot.meet (slot : Slot) (found : List HeadingTree) : Meeting :=
  match found.dropWhile (!slot.fits ·) with
  | [] => ⟨[], [], found⟩
  | first :: rest =>
    let passed := found.takeWhile (!slot.fits ·)
    if slot.repeatable then ⟨passed, first :: rest.takeWhile slot.fits, rest.dropWhile slot.fits⟩
    else ⟨passed, [first], rest⟩

/-! ## Findings -/

namespace Conformity

/-- A heading that belongs nowhere. -/
def reportExtra (tree : HeadingTree) : Audit Unit :=
  Audit.warning .extraHeaderFound
    s!"Extra header found: '{tree.title}' (line {tree.line})"

/-- A heading that took a slot. -/
def reportTaken (slot : Slot) (tree : HeadingTree) : Audit Unit :=
  match slot.fit? tree with
  | some .wrongCase =>
    Audit.error .headerWrongCase
      (s!"Header '{tree.title}' (line {tree.line}) has the wrong case; " ++
        s!"expected '{slot.title}'")
  | some .misspelled =>
    Audit.error .misspelledHeader
      (s!"Header '{tree.title}' (line {tree.line}) may be misspelled; " ++
        s!"expected '{slot.title}'")
  | _ => pure ()

/-- A heading that was passed over on the way to a heading for a slot.  It may fit another one of
the slots on the level. -/
def reportPassed (slots : List Slot) (slot : Slot) (tree : HeadingTree) : Audit Unit :=
  match Fit.best? (slots.filterMap (·.fit? tree)) with
  | some .misspelled =>
    Audit.warning .misspelledHeaderInWrongPosition
      s!"Header '{tree.title}' (line {tree.line}) may be misspelled and is in the wrong position"
  | some _ =>
    Audit.warning .headerInWrongPosition
      (s!"Header '{tree.title}' (line {tree.line}) was found in the wrong position; " ++
        s!"expected '{slot.title}' here")
  | none => reportExtra tree

/-- A slot that no heading took. -/
def reportMissing (slot : Slot) : Audit Unit :=
  if slot.required then
    Audit.error .requiredHeaderMissing
      s!"Missing required header '{slot.title}' (level {slot.level})"
  else pure ()

/-! ## Levels -/

mutual

/-- Compares the headings that are left on a level with an item, where `slots` are all slots of the
level; gives the headings that are left then. -/
def walk (slots : List Slot) : TemplateItem → List HeadingTree → Audit (List HeadingTree)
  | .slot slot, found => walkSlot slots slot found
  | .all items, found => walkAll slots items found
  | .oneOf items, found => walkOne slots items (TemplateItem.choice items found) found

/-- Compares headings with a slot. -/
def walkSlot (slots : List Slot) : Slot → List HeadingTree → Audit (List HeadingTree)
  | slot@⟨_, _, _, _, children⟩, found => do
    let meeting := slot.meet found
    meeting.passed.forM (reportPassed slots slot)
    meeting.taken.forM fun tree => do
      reportTaken slot tree
      unless children.isEmpty do
        let rest ← walkAll (TemplateItem.slotsOfAll children) children tree.children
        rest.forM reportExtra
    if meeting.taken.isEmpty then reportMissing slot
    return meeting.rest

/-- Compares headings with items one after the other. -/
def walkAll (slots : List Slot) :
    List TemplateItem → List HeadingTree → Audit (List HeadingTree)
  | [], found => pure found
  | item :: rest, found => do walkAll slots rest (← walk slots item found)

/-- Compares headings with the item at a position. -/
def walkOne (slots : List Slot) :
    List TemplateItem → Nat → List HeadingTree → Audit (List HeadingTree)
  | [], _, found => pure found
  | item :: _, 0, found => walk slots item found
  | _ :: rest, position + 1, found => walkOne slots rest position found

end

end Conformity

/-- Compares the headings of a page with a template. -/
def checkOutline (template : List TemplateItem) (found : List HeadingTree) : Audit Unit := do
  let rest ← Conformity.walkAll (TemplateItem.slotsOfAll template) template found
  rest.forM Conformity.reportExtra

end DocAudit
