import DocAudit.Proofs.Outline.Course
import DocAudit.Proofs.Settings.Validity
import DocAudit.Proofs.Text.Wildcard

/-!
# Pages that conform to a template

What a template asks of a page, said without a comparison.  A way through the template replaces each
`all` group by its items and each `oneOf` group by one item (`Selects`).  The headings of a level
are then cut into blocks, one for each slot of the way, and what is below a heading conforms to the
children of its slot (`ConformsWith`).

* If a comparison makes no finding, the page conforms (`conforms_of_silent`).
* If nothing in the template is left to be chosen, and no heading can be taken for one of another
  slot, a page that conforms gives no finding (`silent_of_conforms`).
-/

namespace DocAudit

open List Conformity

/-! ## What a template asks for -/

/-- A way through a template: `all` groups are replaced by their items, and `oneOf` groups, each
time that they are reached, by one of theirs. -/
inductive Selects : List TemplateItem → List Slot → Prop
  | nil : Selects [] []
  | slot {slot rest slots} : Selects rest slots → Selects (.slot slot :: rest) (slot :: slots)
  | all {items rest slots} : Selects (items ++ rest) slots → Selects (.all items :: rest) slots
  | oneOf {items item rest slots} :
      item ∈ items → Selects (item :: rest) slots → Selects (.oneOf items :: rest) slots

/-- A heading has the level of a slot and a title that its pattern stands for. -/
def Slot.Names (slot : Slot) (tree : HeadingTree) : Prop :=
  slot.level = tree.level ∧ Text.Spells slot.title.toList tree.title.toList

/-- A slot and the headings that stand for it. -/
structure Part where
  slot : Slot
  block : List HeadingTree

/-- The headings are what the slot asks for. -/
@[mk_iff]
structure Part.IsFilled (part : Part) : Prop where
  required : part.slot.required = true → part.block ≠ []
  single : part.slot.repeatable = false → part.block.length ≤ 1
  named : ∀ tree ∈ part.block, part.slot.Names tree

/-- The headings of a page conform to a template, where the parts of every level obey a law. -/
inductive ConformsWith (law : List Part → Prop) : List TemplateItem → List HeadingTree → Prop
  | level {template} {parts : List Part} :
      Selects template (parts.map (·.slot)) → (∀ part ∈ parts, part.IsFilled) → law parts →
        (∀ part ∈ parts, part.slot.children ≠ [] →
          ∀ tree ∈ part.block, ConformsWith law part.slot.children tree.children) →
        ConformsWith law template (parts.flatMap (·.block))

/-- The headings of a page conform to a template. -/
def Conforms : List TemplateItem → List HeadingTree → Prop :=
  ConformsWith fun _ => True

/-- No heading fits a slot other than its own. -/
def AreClear (parts : List Part) : Prop :=
  parts.Pairwise fun part other =>
    (∀ tree ∈ part.block, other.slot.fits tree = false)
      ∧ ∀ tree ∈ other.block, part.slot.fits tree = false

variable {slot : Slot} {tree : HeadingTree} {slots : List Slot} {items template : List TemplateItem}
  {found left : List HeadingTree} {encounters : List Encounter} {parts : List Part} {part : Part}

lemma Slot.fit?_eq_exact_iff : slot.fit? tree = some .exact ↔ slot.Names tree := by
  rw [Slot.fit?, Option.ite_none_right_eq_some, Slot.Names, ← Text.wildcardMatch_iff, titleFit?]
  refine and_congr_right fun _ => ?_
  split_ifs with exact <;> simp [exact]

instance : Decidable (slot.Names tree) :=
  decidable_of_iff _ Slot.fit?_eq_exact_iff

instance : Decidable part.IsFilled :=
  decidable_of_iff _ part.isFilled_iff.symm

instance : Decidable (AreClear parts) :=
  inferInstanceAs (Decidable (parts.Pairwise _))

lemma Slot.Names.fits (named : slot.Names tree) : slot.fits tree = true := by
  rw [Slot.fits, Slot.fit?_eq_exact_iff.2 named, Option.isSome_some]

/-! ## Silence -/

lemma issues_reportTaken_eq_nil_iff (fits : slot.fits tree = true) :
    (reportTaken slot tree).issues = [] ↔ slot.fit? tree = some .exact := by
  obtain ⟨fit, isFit⟩ := Option.isSome_iff_exists.1 fits
  rw [reportTaken, isFit]
  cases fit <;> simp [Audit.error, Audit.report]

lemma issues_reportPassed_ne_nil : (reportPassed slots slot tree).issues ≠ [] := by
  rw [reportPassed]
  split <;> exact cons_ne_nil _ _

/-- An encounter without findings passes no heading over, and a required slot takes one. -/
lemma Encounter.of_silent {encounter : Encounter} (silent : encounter.issues slots = []) :
    encounter.passed = [] ∧ (encounter.slot.required = true → encounter.taken ≠ [])
      ∧ ∀ tree ∈ encounter.taken, (reportTaken encounter.slot tree).issues = []
          ∧ encounter.slot.issuesBelow tree = [] := by
  rw [Encounter.issues, append_eq_nil_iff, append_eq_nil_iff, flatMap_eq_nil_iff,
    flatMap_eq_nil_iff]
    at silent
  obtain ⟨⟨passed, taken⟩, missing⟩ := silent
  refine ⟨?_, ?_, fun tree mem => append_eq_nil_iff.1 (taken tree mem)⟩
  · exact eq_nil_iff_forall_not_mem.2 fun tree mem => issues_reportPassed_ne_nil (passed tree mem)
  · rintro required unmet
    rw [unmet, isEmpty_nil, if_pos rfl, reportMissing, if_pos required] at missing
    exact cons_ne_nil _ _ missing

/-- A course goes a way through the template. -/
lemma Course.selects (course : Course items found encounters left)
    (groups : TemplateItem.HasNoEmptyGroup items) : Selects items (encounters.map (·.slot)) := by
  induction course with
  | nil => exact .nil
  | slot _ _ ih => exact .slot (ih (groups.mono fun _ => .behind))
  | all _ ih => exact .all (ih (groups.mono fun _ => .of_all))
  | oneOf chosen _ ih =>
      have mem := mem_of_getElem? chosen
      exact .oneOf mem (ih (groups.mono fun _ => .of_oneOf mem))
  | noItem _ _ => exact absurd rfl (groups [] (.inr (.here mem_cons_self)))

/-- A slot and the headings that it takes. -/
def Encounter.toPart (encounter : Encounter) : Part := ⟨encounter.slot, encounter.taken⟩

/-- The headings that are taken in an encounter without findings are what the slot asks for. -/
lemma Course.isFilled (course : Course items found encounters left) {encounter : Encounter}
    (mem : encounter ∈ encounters) (silent : encounter.issues slots = []) :
    encounter.toPart.IsFilled := by
  obtain ⟨met, behind, shares⟩ := course.shares mem
  obtain ⟨-, required, taken⟩ := encounter.of_silent silent
  refine ⟨required, shares.taken_single, fun tree isTaken => ?_⟩
  have fits := shares.taken_fit tree isTaken
  exact Slot.fit?_eq_exact_iff.1 ((issues_reportTaken_eq_nil_iff fits).1 (taken tree isTaken).1)

/-- **Silence is sound.**  If the groups of a template are not empty and comparing a page with it
makes no finding, the page conforms to it. -/
theorem conforms_of_silent (template : List TemplateItem) (found : List HeadingTree)
    (groups : TemplateItem.HasNoEmptyGroup template)
    (silent : (checkOutline template found).issues = []) :
    Conforms template found := by
  induction template using TemplateItem.level_induction generalizing found with
  | level template ih =>
      obtain ⟨encounters, left, course⟩ := exists_course template found
      rw [course.checkOutline_eq, append_eq_nil_iff, flatMap_eq_nil_iff,
        flatMap_eq_nil_iff] at silent
      obtain ⟨silent, noExtra⟩ := silent
      -- nothing is left at the end and nothing is passed over, so the level is what its slots take
      obtain rfl : left = [] :=
        eq_nil_iff_forall_not_mem.2 fun tree mem => cons_ne_nil _ _ (noExtra tree mem)
      have whole : found = (encounters.map Encounter.toPart).flatMap (·.block) := by
        rw [course.headings, append_nil, flatMap_map]
        refine flatMap_congr fun encounter mem => ?_
        rw [Encounter.headings, (encounter.of_silent (silent encounter mem)).1, nil_append,
          Encounter.toPart]
      rw [whole]
      refine .level ?_ ?_ trivial ?_
      · rw [map_map]
        exact course.selects groups
      · exact forall_mem_map.2 fun encounter mem => course.isFilled mem (silent encounter mem)
      · rw [forall_mem_map]
        rintro encounter mem (nonempty : encounter.slot.children ≠ []) tree isTaken
        have below := ((encounter.of_silent (silent encounter mem)).2.2 tree isTaken).2
        rw [Slot.issuesBelow_eq nonempty] at below
        have onLevel := course.slot_mem mem
        have isSlot := TemplateItem.occurs_of_mem_slots onLevel
        exact ih _ onLevel _ (groups.mono fun _ => isSlot.of_children) below

/-- A page with two examples conforms to a template that asks for examples or for a request and a
response. -/
theorem page_with_examples_conforms :
    let group : List TemplateItem :=
      [.all [.slot ⟨2, "Request", true, false, []⟩, .slot ⟨2, "Response", true, false, []⟩],
        .slot ⟨2, "Example", true, true, []⟩]
    let template : List TemplateItem :=
      [.slot ⟨1, "* resource type", true, false,
        [.slot ⟨2, "Properties", true, false, []⟩, .oneOf group]⟩]
    let found : List HeadingTree :=
      [.node ⟨1, "drive resource type", 1⟩
        [.node ⟨2, "Properties", 3⟩ [], .node ⟨2, "Example", 9⟩ [], .node ⟨2, "Example", 14⟩ []]]
    TemplateItem.HasNoEmptyGroup template ∧ (checkOutline template found).issues = []
      ∧ Conforms template found := by
  intro group template found
  have groups : TemplateItem.HasNoEmptyGroup template :=
    TemplateItem.hasNoEmptyGroup_of_valid "resource" rfl
  have silent : (checkOutline template found).issues = [] := by decide +kernel
  exact ⟨groups, silent, conforms_of_silent template found groups silent⟩

/-! ## Acceptance -/

/-- The way that a comparison goes through a template, if each slot is met by the headings of its
own part and of those behind it. -/
inductive Resolves : List TemplateItem → List Part → Prop
  | nil : Resolves [] []
  | slot {part : Part} {rest parts} : Resolves rest parts → Resolves (.slot part.slot :: rest)
      (part :: parts)
  | all {items rest parts} : Resolves (items ++ rest) parts → Resolves (.all items :: rest) parts
  | oneOf {items item rest} {parts : List Part} :
      items[TemplateItem.choice items (parts.flatMap (·.block))]? = some item →
        Resolves (item :: rest) parts → Resolves (.oneOf items :: rest) parts

/-- A slot with the headings of its part. -/
def Part.toEncounter (part : Part) : Encounter := ⟨part.slot, [], part.block⟩

/-- Without a choice there is only one way. -/
lemma Selects.resolves (selects : Selects items slots) (noChoice : TemplateItem.HasNoChoice items)
    (same : slots = parts.map (·.slot)) : Resolves items parts := by
  induction selects generalizing parts with
  | nil =>
      obtain rfl := map_eq_nil_iff.1 same.symm
      exact .nil
  | slot _ ih =>
      obtain ⟨part, parts, rfl, rfl, rest⟩ := map_eq_cons_iff.1 same.symm
      exact .slot (ih (noChoice.mono fun _ => .behind) rest.symm)
  | all _ ih => exact .all (ih (noChoice.mono fun _ => .of_all) same)
  | oneOf _ _ _ => exact absurd (.here mem_cons_self) (noChoice _)

/-- If no heading can be taken for one of another slot, each slot takes the headings of its part. -/
lemma Resolves.course (resolves : Resolves items parts) (filled : ∀ part ∈ parts, part.IsFilled)
    (clear : AreClear parts) :
    Course items (parts.flatMap (·.block)) (parts.map Part.toEncounter) [] := by
  induction resolves with
  | nil => exact .nil
  | @slot part rest parts resolves ih =>
      obtain ⟨apart, clear⟩ := pairwise_cons.1 clear
      obtain ⟨here, filled⟩ := forall_mem_cons.1 filled
      refine .slot ?_ (ih filled clear)
      -- what is behind the part of the slot cannot be taken for it, so the slot stops at its own
      -- block
      have noneFits : ∀ tree ∈ parts.flatMap (·.block), part.slot.fits tree = false := by
        intro tree mem
        obtain ⟨other, isOther, mem⟩ := mem_flatMap.1 mem
        exact (apart other isOther).2 tree mem
      rcases eq_or_ne part.block [] with empty | nonempty
      · rw [flatMap_cons, empty, nil_append]
        exact Slot.meet_of_not_fits noneFits
      · exact Slot.meet_block nonempty (fun tree mem =>
          (here.named tree mem).fits) here.single noneFits
  | all _ ih => exact .all (ih filled clear)
  | oneOf chosen _ ih => exact .oneOf chosen (ih filled clear)

/-- A slot that takes the headings it asks for makes no finding, except below them. -/
lemma Part.issues_toEncounter (filled : part.IsFilled) :
    part.toEncounter.issues slots = part.block.flatMap part.slot.issuesBelow := by
  have taken : ∀ tree ∈ part.block,
      (reportTaken part.slot tree).issues ++ part.slot.issuesBelow tree
        = part.slot.issuesBelow tree := by
    intro tree mem
    have named := filled.named tree mem
    rw [(issues_reportTaken_eq_nil_iff named.fits).2 (Slot.fit?_eq_exact_iff.2 named), nil_append]
  have missing : (if part.block.isEmpty then (reportMissing part.slot).issues else []) = [] := by
    split
    · next empty =>
        have optional : ¬ part.slot.required = true := fun required =>
          filled.required required (List.isEmpty_iff.1 empty)
        rw [reportMissing, if_neg optional]
        rfl
    · rfl
  rw [Encounter.issues, toEncounter]
  dsimp only
  rw [missing, flatMap_congr taken, flatMap_nil, nil_append, append_nil]

/-- **Pages that conform are accepted.**  If nothing in a template is left to be chosen, and a page
conforms to it such that on each level no heading fits a slot other than its own, comparing the two
makes no finding. -/
theorem silent_of_conforms (template : List TemplateItem) (found : List HeadingTree)
    (noChoice : TemplateItem.HasNoChoice template)
    (conforms : ConformsWith AreClear template found) :
    (checkOutline template found).issues = [] := by
  induction conforms with
  | @level template parts selects filled clear below ih =>
      have course := (selects.resolves noChoice rfl).course filled clear
      rw [course.checkOutline_eq, flatMap_nil, append_nil, flatMap_map, flatMap_eq_nil_iff]
      intro part mem
      rw [Part.issues_toEncounter (filled part mem), flatMap_eq_nil_iff]
      intro tree isHeading
      rcases eq_or_ne part.slot.children [] with childless | nonempty
      · exact Slot.issuesBelow_eq_nil childless
      · have isSlot := TemplateItem.occurs_of_mem_slots (course.slot_mem (mem_map_of_mem mem))
        rw [Slot.issuesBelow_eq nonempty]
        exact ih part mem nonempty tree isHeading (noChoice.mono fun _ => isSlot.of_children)

/-- A page with a run of examples and without an optional heading is accepted. -/
theorem page_with_examples_accepted :
    let properties : Slot := ⟨2, "Properties", true, false, []⟩
    let relationships : Slot := ⟨2, "Relationships", false, false, []⟩
    let examples : Slot := ⟨2, "Example *", true, true, []⟩
    let resource : Slot := ⟨1, "* resource type", true, false,
      [.slot properties, .all [.slot relationships, .all [.slot examples]]]⟩
    let page : HeadingTree := .node ⟨1, "drive resource type", 1⟩
      [.node ⟨2, "Properties", 3⟩ [], .node ⟨2, "Example 1", 9⟩ [], .node ⟨2, "Example 2", 14⟩ []]
    TemplateItem.HasNoChoice [.slot resource] ∧ ConformsWith AreClear [.slot resource] [page]
      ∧ (checkOutline [.slot resource] [page]).issues = [] := by
  intro properties relationships examples resource page
  have noChoice : TemplateItem.HasNoChoice [.slot resource] := by
    intro items
    simp [TemplateItem.occurs_slot, TemplateItem.occurs_all, TemplateItem.not_occurs_nil, resource,
      properties, relationships, examples]
  let parts : List Part := [⟨properties, [.node ⟨2, "Properties", 3⟩ []]⟩, ⟨relationships, []⟩,
    ⟨examples, [.node ⟨2, "Example 1", 9⟩ [], .node ⟨2, "Example 2", 14⟩ []]⟩]
  have level : ConformsWith AreClear resource.children (parts.flatMap (·.block)) := by
    refine .level (.slot (.all (.slot (.all (.slot .nil))))) (by decide +kernel)
      (by decide +kernel) ?_
    simp [parts, properties, relationships, examples]
  have below : ConformsWith AreClear resource.children page.children := level
  have conforms : ConformsWith AreClear [.slot resource]
      ([⟨resource, [page]⟩].flatMap Part.block) := by
    refine .level (.slot .nil) (by decide +kernel) (by decide +kernel) ?_
    simpa [resource] using below
  exact ⟨noChoice, conforms, silent_of_conforms _ _ noChoice conforms⟩

end DocAudit
