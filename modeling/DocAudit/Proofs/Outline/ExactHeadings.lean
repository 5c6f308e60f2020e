import DocAudit.Proofs.Outline.Conforms
import DocAudit.Proofs.Text.EditDistance
import DocAudit.Proofs.Text.Lowercase
import Mathlib.Data.List.Nodup
import Mathlib.Data.List.Pairwise

/-!
# Headings with the exact title of a slot

A heading may have the exact title of a slot and be taken by another slot all the same, because a
slot takes the first heading that fits it in some way.  Then it is reported as misspelled, or as
written in the wrong case (`exact_heading_kept_iff`).  This happens on some page exactly if two
titles of the level resemble each other (`Slot.Resembles`): the first of the two slots then takes a
heading with the title of the other one (`exact_headings_kept_iff`).
-/

namespace DocAudit

open List Conformity

variable {slot other : Slot} {slots : List Slot} {tree : HeadingTree}
  {found left : List HeadingTree}
  {encounters : List Encounter} {encounter : Encounter} {pattern title : List Char}

/-! ## Titles without wildcards -/

/-- A pattern without stars stands for itself only. -/
lemma Text.wildcardMatch_of_literal (literal : '*' ∉ pattern) :
    wildcardMatch pattern title = true ↔ pattern = title := by
  rw [wildcardMatch, splitAt_of_not_mem literal]
  exact beq_iff_eq

/-- A title fits a slot without wildcards in some way if the two are near to each other in lower
case. -/
lemma isSome_titleFit?_iff (literal : '*' ∉ pattern) : (titleFit? pattern title).isSome = true ↔
    Text.editDistance (Text.lower pattern) (Text.lower title) < misspellingDistance := by
  have near_self (text : List Char) : Text.editDistance text text < misspellingDistance := by
    rw [Text.editDistance_self]
    decide
  rw [titleFit?]
  split
  · next exact =>
      obtain rfl := (Text.wildcardMatch_of_literal literal).1 exact
      simp [near_self]
  · split
    · next wrongCase =>
        have noStar := Text.mark_not_mem_lower (by decide) (by decide) literal
        have same := (Text.wildcardMatch_of_literal noStar).1 wrongCase
        simp [same, near_self]
    · simp [literal]

/-- Two slots ask for titles of one level that can be taken for each other. -/
def Slot.Resembles (slot other : Slot) : Prop :=
  slot.level = other.level
    ∧ Text.editDistance (Text.lower slot.title.toList) (Text.lower other.title.toList)
      < misspellingDistance

instance : Decidable (slot.Resembles other) :=
  inferInstanceAs (Decidable (_ ∧ _))

lemma Slot.Resembles.symm (resembles : slot.Resembles other) : other.Resembles slot := by
  refine ⟨resembles.1.symm, ?_⟩
  rw [Text.editDistance_comm]
  exact resembles.2

instance : Std.Symm fun slot other : Slot => ¬slot.Resembles other :=
  ⟨fun _ _ apart resembles => apart resembles.symm⟩

/-- The exact heading of a slot: it has its level and its title. -/
def Slot.IsExact (slot : Slot) (tree : HeadingTree) : Prop :=
  slot.level = tree.level ∧ slot.title = tree.title

lemma Slot.fit?_eq_exact_iff_isExact (literal : '*' ∉ slot.title.toList) :
    slot.fit? tree = some .exact ↔ slot.IsExact tree := by
  rw [fit?_eq_exact_iff, Names, ← Text.wildcardMatch_iff, Text.wildcardMatch_of_literal literal,
    String.toList_inj, IsExact]

/-- A slot takes the exact heading of another one for its own if the two resemble each other. -/
lemma Slot.fits_iff_resembles (literal : '*' ∉ slot.title.toList) (exact : other.IsExact tree) :
    slot.fits tree = true ↔ slot.Resembles other := by
  rw [fits, fit?, Resembles, exact.1, exact.2]
  split
  · next sameLevel => rw [isSome_titleFit?_iff literal, and_iff_right sameLevel]
  · next otherLevel => simp [otherLevel]

/-! ## Exact headings -/

lemma slotsOfAll_map_slot (slots : List Slot) :
    TemplateItem.slotsOfAll (slots.map .slot) = slots := by
  induction slots with
  | nil => rw [map_nil, TemplateItem.slotsOfAll]
  | cons slot rest ih =>
      rw [map_cons, TemplateItem.slotsOfAll, TemplateItem.slots, ih, singleton_append]

section

variable (literal : ∀ slot ∈ slots, '*' ∉ slot.title.toList)
  (distinct : (slots.map (·.title)).Nodup)
  (course : Course (slots.map .slot) found encounters left) (isEncounter : encounter ∈ encounters)
  (isTaken : tree ∈ encounter.taken) (isSlot : slot ∈ slots) (exact : slot.IsExact tree)
include literal distinct course isEncounter isTaken isSlot exact

/-- **The exact heading of a slot is reported unless the slot itself takes it.** -/
theorem exact_heading_kept_iff :
    (reportTaken encounter.slot tree).issues = [] ↔ encounter.slot = slot := by
  have onLevel := course.slot_mem isEncounter
  rw [slotsOfAll_map_slot] at onLevel
  obtain ⟨_, _, shares⟩ := course.shares isEncounter
  rw [issues_reportTaken_eq_nil_iff (shares.taken_fit tree isTaken),
    Slot.fit?_eq_exact_iff_isExact (literal _ onLevel)]
  constructor
  · intro taken
    exact inj_on_of_nodup_map distinct onLevel isSlot (taken.2.trans exact.2.symm)
  · rintro rfl
    exact exact

/-- If no titles of the level resemble each other, the slot itself takes its exact heading. -/
lemma exact_heading_kept (apart : slots.Pairwise fun slot other => ¬slot.Resembles other) :
    (reportTaken encounter.slot tree).issues = [] := by
  rw [exact_heading_kept_iff literal distinct course isEncounter isTaken isSlot exact]
  have onLevel := course.slot_mem isEncounter
  rw [slotsOfAll_map_slot] at onLevel
  obtain ⟨_, _, shares⟩ := course.shares isEncounter
  have resembles :=
    (Slot.fits_iff_resembles (literal _ onLevel) exact).1 (shares.taken_fit tree isTaken)
  by_contra other
  exact apart.forall onLevel isSlot other resembles

end

/-- A single heading is taken by a slot, unless an earlier one has taken it. -/
lemma Course.exists_taken_by_other (course : Course (slots.map .slot) [tree] encounters left)
    (fits : slot.fits tree = true) (before : [slot, other] <+ slots) (distinct : slots.Nodup) :
    ∃ encounter ∈ encounters, tree ∈ encounter.taken ∧ encounter.slot ≠ other := by
  induction slots generalizing encounters with
  | nil => cases before
  | cons first rest ih =>
      obtain ⟨absent, distinct⟩ := nodup_cons.1 distinct
      cases course with
      | slot met course =>
          cases firstFits : first.fits tree with
          | true =>
              have taken :=
                first.meet_block (cons_ne_nil tree []) (forall_mem_singleton.2 firstFits)
                (fun _ => Nat.le_refl 1) (forall_mem_nil _)
              rw [append_nil, met] at taken
              obtain ⟨-, rfl, -⟩ := Meeting.mk.inj taken
              refine ⟨_, mem_cons_self, mem_cons_self, ?_⟩
              rintro rfl
              -- the other slot would be behind itself
              rcases sublist_cons_iff.1 before with later | ⟨behind, same, later⟩
              · exact absent (later.subset (mem_cons_of_mem _ mem_cons_self))
              · obtain ⟨-, rfl⟩ := cons.inj same
                exact absent (later.subset mem_cons_self)
          | false =>
              have passed := first.meet_of_not_fits (forall_mem_singleton.2 firstFits)
              rw [met] at passed
              obtain ⟨-, -, rfl⟩ := Meeting.mk.inj passed
              rcases sublist_cons_iff.1 before with later | ⟨behind, same, -⟩
              · obtain ⟨encounter, mem, taken⟩ := ih course later distinct
                exact ⟨encounter, mem_cons_of_mem _ mem, taken⟩
              · rw [(cons.inj same).1, firstFits] at fits
                cases fits

/-- The findings of the comparison are those of encounters in which no heading with the exact title
of a slot is reported as misspelled or as written in the wrong case. -/
def KeepsExactHeadings (slots : List Slot) (found : List HeadingTree) : Prop :=
  ∃ encounters left, Course (slots.map .slot) found encounters left
    ∧ (checkOutline (slots.map .slot) found).issues
        = encounters.flatMap (Encounter.issues slots)
          ++ left.flatMap (fun tree => (reportExtra tree).issues)
    ∧ ∀ encounter ∈ encounters, ∀ tree ∈ encounter.taken, (∃ slot ∈ slots, slot.IsExact tree) →
        (reportTaken encounter.slot tree).issues = []

/-- If a slot fits the exact heading of a later one, it is reported on a page of its own. -/
lemma not_keepsExactHeadings (literal : ∀ slot ∈ slots, '*' ∉ slot.title.toList)
    (distinct : (slots.map (·.title)).Nodup) (before : [slot, other] <+ slots)
    (exact : other.IsExact tree)
    (fits : slot.fits tree = true) : ¬KeepsExactHeadings slots [tree] := by
  rintro ⟨encounters, left, course, -, silent⟩
  obtain ⟨encounter, isEncounter, isTaken, byOther⟩ :=
    course.exists_taken_by_other fits before (distinct.of_map _)
  have isSlot : other ∈ slots := before.subset (mem_cons_of_mem slot mem_cons_self)
  exact byOther ((exact_heading_kept_iff literal distinct course isEncounter isTaken isSlot exact).1
    (silent encounter isEncounter tree isTaken ⟨other, isSlot, exact⟩))

/-- **Exact headings are kept on all pages if and only if no titles of the level resemble each
other,** where a level consists of slots with distinct titles and no wildcards.  Only pages with
distinct titles count. -/
theorem exact_headings_kept_iff (slots : List Slot)
    (literal : ∀ slot ∈ slots, '*' ∉ slot.title.toList) (distinct : (slots.map (·.title)).Nodup) :
    (∀ found : List HeadingTree, (found.map (·.title)).Nodup → KeepsExactHeadings slots found)
      ↔ slots.Pairwise fun slot other => ¬slot.Resembles other := by
  constructor
  · intro kept
    rw [pairwise_iff_forall_sublist]
    intro slot other before resembles
    let tree : HeadingTree := .node ⟨other.level, other.title, 1⟩ []
    have exact : other.IsExact tree := ⟨rfl, rfl⟩
    have fits :=
      (Slot.fits_iff_resembles (literal slot (before.subset mem_cons_self)) exact).2 resembles
    exact not_keepsExactHeadings literal distinct before exact fits
      (kept [tree] (nodup_singleton _))
  · intro apart found _
    obtain ⟨encounters, left, course⟩ := exists_course (slots.map .slot) found
    refine ⟨encounters, left, course, ?_, ?_⟩
    · rw [course.checkOutline_eq, slotsOfAll_map_slot]
    · rintro encounter isEncounter tree isTaken ⟨slot, isSlot, exact⟩
      exact exact_heading_kept literal distinct course isEncounter isTaken isSlot exact apart

/-- A title may be the start of another one: the end is long enough to keep them apart. -/
theorem apart_headings_kept :
    let slots : List Slot :=
      [⟨2, "Request", false, false, []⟩, ⟨2, "Request body", true, false, []⟩]
    let found : List HeadingTree := [.node ⟨2, "Request body", 3⟩ [], .node ⟨2, "Example", 9⟩ []]
    (∀ slot ∈ slots, '*' ∉ slot.title.toList) ∧ (slots.map (·.title)).Nodup
      ∧ (slots.Pairwise fun slot other => ¬slot.Resembles other)
        ∧ KeepsExactHeadings slots found := by
  intro slots found
  have literal : ∀ slot ∈ slots, '*' ∉ slot.title.toList := by decide +kernel
  have distinct : (slots.map (·.title)).Nodup := by decide
  have apart : slots.Pairwise fun slot other => ¬slot.Resembles other := by decide +kernel
  exact ⟨literal, distinct, apart,
    (exact_headings_kept_iff slots literal distinct).2 apart found (by decide)⟩

/-- The exact heading of a required slot is taken for a misspelling by an optional one, and then the
required one is missing. -/
theorem exact_heading_misread :
    let slots : List Slot := [⟨2, "Header", false, false, []⟩, ⟨2, "Headers", true, false, []⟩]
    let tree : HeadingTree := .node ⟨2, "Headers", 1⟩ []
    (∀ slot ∈ slots, '*' ∉ slot.title.toList) ∧ (slots.map (·.title)).Nodup
      ∧ (∃ slot ∈ slots, slot.IsExact tree)
      ∧ (checkOutline (slots.map .slot) [tree]).issues.map (·.code)
        = [.misspelledHeader, .requiredHeaderMissing]
      ∧ ¬KeepsExactHeadings slots [tree] := by
  intro slots tree
  have literal : ∀ slot ∈ slots, '*' ∉ slot.title.toList := by decide +kernel
  have distinct : (slots.map (·.title)).Nodup := by decide
  have isSlot : ⟨2, "Headers", true, false, []⟩ ∈ slots := mem_cons_of_mem _ mem_cons_self
  have exact : Slot.IsExact ⟨2, "Headers", true, false, []⟩ tree := ⟨rfl, rfl⟩
  exact ⟨literal, distinct, ⟨_, isSlot, exact⟩, by decide +kernel,
    not_keepsExactHeadings literal distinct (Sublist.refl slots) exact (by decide +kernel)⟩

end DocAudit
