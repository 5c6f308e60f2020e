import Mathlib.Data.List.TakeWhile
import DocAudit.Outline.Conformity
import DocAudit.Proofs.Outline.Template

/-!
# The course of a comparison

How the headings of one level are shared out among the slots of a template.  A slot is met by the
headings that are left: it passes some over, takes some, and leaves the rest to the slots behind it
(`Slot.shares_meet`).  `Course` follows a whole level.  An `all` group is replaced by its items and
a `oneOf` group by the item that is chosen for the headings that are left, so a course is a list of
encounters of slots with headings.

* Every level has a course (`exists_course`), and no heading is lost on the way (`Course.headings`).
* The course says all about the comparison: its findings are those of the encounters in order
  (`Course.walkAll_eq`, `Course.checkOutline_eq`).
-/

namespace DocAudit

open List Conformity

/-! ## Encounters -/

/-- A slot, the headings that it passes over, and those that it takes. -/
structure Encounter where
  slot : Slot
  passed : List HeadingTree
  taken : List HeadingTree

/-- The findings below a heading that took a slot. -/
def Slot.issuesBelow (slot : Slot) (tree : HeadingTree) : List Issue :=
  if slot.children.isEmpty then [] else (checkOutline slot.children tree.children).issues

lemma Slot.issuesBelow_eq_nil {slot : Slot} {tree : HeadingTree} (childless : slot.children = []) :
    slot.issuesBelow tree = [] := by
  rw [issuesBelow, childless]
  rfl

lemma Slot.issuesBelow_eq {slot : Slot} {tree : HeadingTree} (nonempty : slot.children ≠ []) :
    slot.issuesBelow tree = (checkOutline slot.children tree.children).issues :=
  if_neg (mt List.isEmpty_iff.1 nonempty)

namespace Encounter

/-- The headings of an encounter in order. -/
def headings (encounter : Encounter) : List HeadingTree :=
  encounter.passed ++ encounter.taken

/-- The findings of an encounter, where `slots` are all slots of the level. -/
def issues (slots : List Slot) (encounter : Encounter) : List Issue :=
  (encounter.passed.flatMap fun tree => (reportPassed slots encounter.slot tree).issues)
    ++ (encounter.taken.flatMap fun tree =>
        (reportTaken encounter.slot tree).issues ++ encounter.slot.issuesBelow tree)
    ++ if encounter.taken.isEmpty then (reportMissing encounter.slot).issues else []

end Encounter

/-- The course of a level: the encounters of slots with the headings of the page, and the headings
that are left at the end. -/
inductive Course : List TemplateItem → List HeadingTree → List Encounter → List HeadingTree → Prop
  | nil {found} : Course [] found [] found
  | slot {slot : Slot} {rest found passed taken behind encounters left} :
      slot.meet found = ⟨passed, taken, behind⟩ → Course rest behind encounters left →
        Course (.slot slot :: rest) found (⟨slot, passed, taken⟩ :: encounters) left
  | all {items rest found encounters left} :
      Course (items ++ rest) found encounters left →
        Course (.all items :: rest) found encounters left
  | oneOf {items item rest found encounters left} :
      items[TemplateItem.choice items found]? = some item →
        Course (item :: rest) found encounters left →
        Course (.oneOf items :: rest) found encounters left
  | noItem {rest found encounters left} :
      Course rest found encounters left → Course (.oneOf [] :: rest) found encounters left

/-! ## Meeting a slot -/

variable {slot : Slot} {found behind block : List HeadingTree}

/-- How the headings of a meeting are shared out. -/
structure Slot.Shares (slot : Slot) (found : List HeadingTree) (meeting : Meeting) : Prop where
  placed : found = meeting.passed ++ (meeting.taken ++ meeting.rest)
  taken_fit : ∀ tree ∈ meeting.taken, slot.fits tree = true
  taken_single : slot.repeatable = false → meeting.taken.length ≤ 1

lemma Slot.shares_meet (slot : Slot) (found : List HeadingTree) :
    slot.Shares found (slot.meet found) := by
  have whole := takeWhile_append_dropWhile (p := (!slot.fits ·)) (l := found)
  rw [Slot.meet]
  cases next : found.dropWhile (!slot.fits ·) with
  | nil => exact ⟨rfl, fun _ mem => absurd mem not_mem_nil, fun _ => Nat.zero_le 1⟩
  | cons first rest =>
      have fits : slot.fits first = true := by
        have head := head?_dropWhile_not (!slot.fits ·) found
        simpa [next] using head
      rw [next] at whole
      dsimp only
      split
      · next repeatable =>
          refine ⟨?_, ?_, fun single => absurd repeatable (by simp [single])⟩
          · rw [cons_append, takeWhile_append_dropWhile, whole]
          · rintro tree (_ | ⟨_, mem⟩)
            · exact fits
            · exact mem_takeWhile_imp mem
      · refine ⟨whole.symm, ?_, fun _ => Nat.le_refl 1⟩
        intro tree mem
        rwa [mem_singleton.1 mem]

/-- If no heading fits a slot, all are left. -/
lemma Slot.meet_of_not_fits (noneFits : ∀ tree ∈ found, slot.fits tree = false) :
    slot.meet found = ⟨[], [], found⟩ := by
  have all : found.dropWhile (!slot.fits ·) = [] := by
    rw [dropWhile_eq_nil_iff]
    intro tree mem
    rw [noneFits tree mem, Bool.not_false]
  rw [Slot.meet, all]

/-- Headings that fit a slot are taken if no more of them follow than the slot can take. -/
lemma Slot.meet_block (filled : block ≠ []) (fit : ∀ tree ∈ block, slot.fits tree = true)
    (single : slot.repeatable = false → block.length ≤ 1)
    (noneFits : ∀ tree ∈ behind, slot.fits tree = false) :
    slot.meet (block ++ behind) = ⟨[], block, behind⟩ := by
  obtain ⟨first, more, rfl⟩ := exists_cons_of_ne_nil filled
  have fits := fit first mem_cons_self
  have stays : (first :: more ++ behind).dropWhile (!slot.fits ·) = first :: (more ++ behind) := by
    simp [fits]
  have passes : (first :: more ++ behind).takeWhile (!slot.fits ·) = [] := by
    simp [fits]
  have ends : behind.takeWhile slot.fits = [] ∧ behind.dropWhile slot.fits = behind := by
    cases behind with
    | nil => exact ⟨rfl, rfl⟩
    | cons next rest => simp [noneFits next mem_cons_self]
  rw [Slot.meet, stays, passes]
  dsimp only
  split
  · have run : ∀ tree ∈ more, slot.fits tree = true :=
      fun tree mem => fit tree (mem_cons_of_mem _ mem)
    rw [takeWhile_append_of_pos run, dropWhile_append_of_pos run, ends.1, ends.2, append_nil]
  · next once =>
      have short := single (by simpa using once)
      obtain rfl : more = [] := length_eq_zero_iff.1 (by simpa using short)
      rfl

/-! ## Every level has a course -/

variable {items rest : List TemplateItem} {item : TemplateItem} {left : List HeadingTree}
  {encounters : List Encounter} {slots : List Slot}

/-- **Every level has a course,** whatever its headings are. -/
theorem exists_course (items : List TemplateItem) (found : List HeadingTree) :
    ∃ encounters left, Course items found encounters left := by
  induction items using TemplateItem.queue_induction generalizing found with
  | nil => exact ⟨[], found, .nil⟩
  | slot slot rest ih =>
      obtain ⟨encounters, left, course⟩ := ih (slot.meet found).rest
      exact ⟨_, left, .slot rfl course⟩
  | all items rest ih =>
      obtain ⟨encounters, left, course⟩ := ih found
      exact ⟨encounters, left, course.all⟩
  | oneOf items rest ih ihItems =>
      rcases eq_or_ne items [] with rfl | nonempty
      · obtain ⟨encounters, left, course⟩ := ih found
        exact ⟨encounters, left, course.noItem⟩
      · obtain ⟨item, chosen⟩ := TemplateItem.exists_choice nonempty found
        obtain ⟨encounters, left, course⟩ := ihItems item (mem_of_getElem? chosen) found
        exact ⟨encounters, left, .oneOf chosen course⟩

/-- **No heading is lost:** those of the encounters, one after the other, and those that are left
are the headings of the page. -/
theorem Course.headings (course : Course items found encounters left) :
    found = encounters.flatMap Encounter.headings ++ left := by
  induction course with
  | nil => rfl
  | @slot slot _ found _ _ _ _ _ met _ ih =>
      have placed := (slot.shares_meet found).placed
      rw [met, ih] at placed
      rw [placed, flatMap_cons, Encounter.headings]
      simp only [append_assoc]
  | all _ ih => exact ih
  | oneOf _ _ ih => exact ih
  | noItem _ ih => exact ih

/-- Slots of a course are slots of the level. -/
lemma Course.slot_mem (course : Course items found encounters left) {encounter : Encounter}
    (mem : encounter ∈ encounters) : encounter.slot ∈ TemplateItem.slotsOfAll items := by
  induction course with
  | nil => cases mem
  | slot _ _ ih =>
      rcases mem_cons.1 mem with rfl | behind
      · exact TemplateItem.mem_slotsOfAll.2 ⟨_, mem_cons_self, mem_singleton_self _⟩
      · exact mem_append_right _ (ih behind)
  | all _ ih => exact TemplateItem.slotsOfAll_all ▸ ih mem
  | oneOf chosen _ ih =>
      have inside := ih mem
      rw [TemplateItem.slotsOfAll, mem_append] at inside
      rw [TemplateItem.slotsOfAll, TemplateItem.slots, mem_append, TemplateItem.mem_slotsOfAll]
      exact inside.imp_left fun inside => ⟨_, mem_of_getElem? chosen, inside⟩
  | noItem _ ih => exact ih mem

/-- Each slot of a course has met some headings of the page. -/
lemma Course.shares (course : Course items found encounters left) {encounter : Encounter}
    (mem : encounter ∈ encounters) : ∃ met behind,
      encounter.slot.Shares met ⟨encounter.passed, encounter.taken, behind⟩ := by
  induction course with
  | nil => cases mem
  | slot met _ ih =>
      rcases mem_cons.1 mem with rfl | later
      · exact ⟨_, _, met ▸ Slot.shares_meet ..⟩
      · exact ih later
  | all _ ih => exact ih mem
  | oneOf _ _ ih => exact ih mem
  | noItem _ ih => exact ih mem

/-! ## Findings -/

lemma walkAll_append : walkAll slots (items ++ rest) found
    = walkAll slots items found >>= walkAll slots rest := by
  induction items generalizing found with
  | nil =>
      rw [nil_append, walkAll]
      rfl
  | cons item items ih =>
      rw [cons_append, walkAll, walkAll, Audit.bind_assoc]
      exact congrArg _ (funext fun _ => ih)

/-- An `all` group counts as its items. -/
lemma walkAll_all :
    walkAll slots (.all items :: rest) found = walkAll slots (items ++ rest) found := by
  rw [walkAll_append, walkAll, walk]

lemma walkOne_eq {position : ℕ} (here : items[position]? = some item) :
    walkOne slots items position found = walk slots item found := by
  induction items generalizing position with
  | nil => cases here
  | cons first items ih =>
      cases position with
      | zero =>
          cases here
          rw [walkOne]
      | succ position => rw [walkOne, ih (by simpa using here)]

/-- A `oneOf` group counts as the item that is chosen. -/
lemma walk_oneOf (chosen : items[TemplateItem.choice items found]? = some item) :
    walk slots (.oneOf items) found = walk slots item found := by
  rw [walk, walkOne_eq chosen]

/-- What is done for a heading that took a slot. -/
def takenStep (slot : Slot) (tree : HeadingTree) : Audit Unit := do
  reportTaken slot tree
  unless slot.children.isEmpty do checkOutline slot.children tree.children

lemma issues_takenStep (slot : Slot) (tree : HeadingTree) :
    (takenStep slot tree).issues = (reportTaken slot tree).issues ++ slot.issuesBelow tree := by
  rw [takenStep, Audit.issues_bind, Slot.issuesBelow]
  split <;> rfl

lemma walkSlot_def : walkSlot slots slot found = do
    (slot.meet found).passed.forM (reportPassed slots slot)
    (slot.meet found).taken.forM (takenStep slot)
    if (slot.meet found).taken.isEmpty then reportMissing slot
    return (slot.meet found).rest := by
  cases slot
  rfl

/-- A slot makes the findings of its encounter. -/
lemma walkSlot_eq {passed taken : List HeadingTree}
    (met : slot.meet found = ⟨passed, taken, behind⟩) :
    walkSlot slots slot found = ⟨behind, Encounter.issues slots ⟨slot, passed, taken⟩⟩ := by
  have value : (walkSlot slots slot found).value = behind := by
    rw [walkSlot_def, met]
    cases taken <;> rfl
  have issues : (walkSlot slots slot found).issues
      = Encounter.issues slots ⟨slot, passed, taken⟩ := by
    rw [walkSlot_def, met, Encounter.issues, ← Audit.issues_forM,
      ← funext (issues_takenStep slot), ← Audit.issues_forM, append_assoc]
    -- whether a finding for the slot follows is decided by the headings that are taken
    cases taken with
    | nil => simp
    | cons first more => simp
  rw [← value, ← issues]

/-- **The course says all about the comparison of a level.** -/
theorem Course.walkAll_eq (course : Course items found encounters left) (slots : List Slot) :
    walkAll slots items found = ⟨left, encounters.flatMap (Encounter.issues slots)⟩ := by
  induction course with
  | nil =>
      rw [walkAll]
      rfl
  | slot met _ ih =>
      rw [walkAll, walk, walkSlot_eq met]
      change (⟨(walkAll slots _ _).value, _ ++ (walkAll slots _ _).issues⟩ : Audit _) = _
      rw [ih, flatMap_cons]
  | all _ ih => rw [walkAll_all, ih]
  | oneOf chosen _ ih =>
      rw [walkAll, walk_oneOf chosen, ← ih, walkAll]
  | noItem _ ih =>
      rw [← ih, walkAll, walk, walkOne]
      rfl

theorem Course.checkOutline_eq (course : Course items found encounters left) :
    (checkOutline items found).issues
      = encounters.flatMap (Encounter.issues (TemplateItem.slotsOfAll items))
        ++ left.flatMap fun tree => (reportExtra tree).issues := by
  rw [checkOutline, Audit.issues_bind, course.walkAll_eq, Audit.issues_forM]

end DocAudit
