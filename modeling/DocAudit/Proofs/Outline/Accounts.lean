import DocAudit.Proofs.Outline.Course

/-!
# Accounts of a comparison

Where every heading and every finding of a comparison belongs.  A visit of a slot is an encounter
with its findings: a heading that is passed over has exactly one, which names it; a heading that is
taken has findings about how it is written and findings below it; and a required slot that takes no
heading has one of its own (`Visit.IsSettled`).  `Accounted` says that the visits of a level, and
the headings that are left at its end, make up the headings of the page and all findings, and so on
below the headings that are taken.

Every comparison is accounted for (`headings_accounted`).
-/

namespace DocAudit

open List Conformity

/-! ## Visits -/

/-- The codes of findings about headings that no slot takes. -/
def misplacedCodes : List IssueCode :=
  [.extraHeaderFound, .headerInWrongPosition, .misspelledHeaderInWrongPosition]

/-- A finding says that a heading is not where it belongs, and names it. -/
def Issue.Misplaces (issue : Issue) (tree : HeadingTree) : Prop :=
  issue.code ∈ misplacedCodes
    ∧ ∃ before after, issue.message = before ++ s!"'{tree.title}' (line {tree.line})" ++ after

/-- A heading of a level, the findings about it, and those of comparing what is below it. -/
structure Entry where
  tree : HeadingTree
  own : List Issue
  below : List Issue

namespace Entry

/-- All findings of an entry. -/
def issues (entry : Entry) : List Issue :=
  entry.own ++ entry.below

/-- No slot takes the heading, and exactly one finding says so. -/
def IsMisplaced (entry : Entry) : Prop :=
  (∃ issue, entry.own = [issue] ∧ issue.Misplaces entry.tree) ∧ entry.below = []

/-- A slot takes the heading, and the findings about it are on how it is written only. -/
def IsTakenBy (slot : Slot) (entry : Entry) : Prop :=
  slot.fits entry.tree = true
    ∧ ∀ issue ∈ entry.own, issue.code = .headerWrongCase ∨ issue.code = .misspelledHeader

end Entry

/-- A slot with the headings that it passes over and those that it takes, and the finding that it
takes none. -/
structure Visit where
  slot : Slot
  passed : List Entry
  taken : List Entry
  missing : List Issue

namespace Visit

/-- The visit without its findings. -/
def toEncounter (visit : Visit) : Encounter :=
  ⟨visit.slot, visit.passed.map (·.tree), visit.taken.map (·.tree)⟩

/-- All findings of a visit. -/
def issues (visit : Visit) : List Issue :=
  visit.passed.flatMap Entry.issues ++ visit.taken.flatMap Entry.issues ++ visit.missing

/-- The headings have the findings that they should have, and a slot has one exactly if it is
required and takes no heading. -/
structure IsSettled (visit : Visit) : Prop where
  passed : ∀ entry ∈ visit.passed, entry.IsMisplaced
  taken : ∀ entry ∈ visit.taken, entry.IsTakenBy visit.slot
  missing : visit.missing = if visit.slot.required && visit.taken.isEmpty then
    [.error .requiredHeaderMissing
      s!"Missing required header '{visit.slot.title}' (level {visit.slot.level})"] else []

end Visit

/-- The headings of a page and the findings of a comparison are accounted for, from level to level.

The slots visited are those that are reached when groups are replaced by items of theirs.  One after
the other, with the headings that are passed over and taken, and with those that are left, they make
up the headings of the level; and their findings make up all findings. -/
inductive Accounted : List TemplateItem → List HeadingTree → List Issue → Prop
  | level {template found} {visits : List Visit} {extra : List Entry} :
      Course template found (visits.map Visit.toEncounter) (extra.map (·.tree)) →
      found = visits.flatMap (fun visit => (visit.passed ++ visit.taken).map (·.tree))
        ++ extra.map (·.tree) →
      (∀ visit ∈ visits, visit.IsSettled) → (∀ entry ∈ extra, entry.IsMisplaced) →
      (∀ visit ∈ visits, visit.slot.children = [] → ∀ entry ∈ visit.taken, entry.below = []) →
      (∀ visit ∈ visits, visit.slot.children ≠ [] →
        ∀ entry ∈ visit.taken, Accounted visit.slot.children entry.tree.children entry.below) →
      Accounted template found (visits.flatMap Visit.issues ++ extra.flatMap Entry.issues)

/-! ## Findings about single headings -/

variable {slot : Slot} {tree : HeadingTree} {slots : List Slot}

/-- A heading that is left is named by the finding that it is extra. -/
lemma exists_reportExtra (tree : HeadingTree) :
    ∃ issue, (reportExtra tree).issues = [issue] ∧ issue.Misplaces tree := by
  refine ⟨_, rfl, .head _, "Extra header found: ", "", ?_⟩
  simp [Issue.warning, toString, ← String.toList_inj]

/-- A heading that is passed over is named by exactly one finding. -/
lemma exists_reportPassed (slots : List Slot) (slot : Slot) (tree : HeadingTree) :
    ∃ issue, (reportPassed slots slot tree).issues = [issue] ∧ issue.Misplaces tree := by
  rw [reportPassed]
  split
  · refine ⟨_, rfl, .tail _ (.tail _ (.head _)), "Header ",
      " may be misspelled and is in the wrong position", ?_⟩
    simp [Issue.warning, toString, ← String.toList_inj]
  · refine ⟨_, rfl, .tail _ (.head _), "Header ",
      s!" was found in the wrong position; expected '{slot.title}' here", ?_⟩
    simp [Issue.warning, toString, ← String.toList_inj]
  · exact exists_reportExtra tree

lemma code_of_mem_reportTaken {issue : Issue} (mem : issue ∈ (reportTaken slot tree).issues) :
    issue.code = .headerWrongCase ∨ issue.code = .misspelledHeader := by
  rw [reportTaken] at mem
  split at mem
  · exact .inl (mem_singleton.1 mem ▸ rfl)
  · exact .inr (mem_singleton.1 mem ▸ rfl)
  · cases mem

/-! ## From encounters to visits -/

/-- An encounter with its findings, where `slots` are all slots of the level. -/
def Encounter.toVisit (slots : List Slot) (encounter : Encounter) : Visit where
  slot := encounter.slot
  passed := encounter.passed.map fun tree =>
    ⟨tree, (reportPassed slots encounter.slot tree).issues, []⟩
  taken := encounter.taken.map fun tree =>
    ⟨tree, (reportTaken encounter.slot tree).issues, encounter.slot.issuesBelow tree⟩
  missing := if encounter.taken.isEmpty then (reportMissing encounter.slot).issues else []

/-- A heading that is left with its finding. -/
def HeadingTree.toExtra (tree : HeadingTree) : Entry := ⟨tree, (reportExtra tree).issues, []⟩

namespace Encounter

variable (slots : List Slot) (encounter : Encounter)

lemma toEncounter_toVisit : (encounter.toVisit slots).toEncounter = encounter := by
  simp [toVisit, Visit.toEncounter, Function.comp_def]

lemma issues_toVisit : (encounter.toVisit slots).issues = encounter.issues slots := by
  simp [toVisit, Visit.issues, Entry.issues, flatMap_map, issues]

lemma isSettled_toVisit (fit : ∀ tree ∈ encounter.taken, encounter.slot.fits tree = true) :
    (encounter.toVisit slots).IsSettled where
  passed := forall_mem_map.2 fun tree _ => ⟨exists_reportPassed slots encounter.slot tree, rfl⟩
  taken := forall_mem_map.2 fun tree mem => ⟨fit tree mem, fun _ => code_of_mem_reportTaken⟩
  missing := by
    change (if encounter.taken.isEmpty then (reportMissing encounter.slot).issues else []) = _
    rw [reportMissing, toVisit, List.isEmpty_map]
    cases encounter.taken.isEmpty <;> cases encounter.slot.required <;> rfl

end Encounter

/-! ## The account of a comparison -/

/-- **Every comparison is accounted for.**  On each level that is compared, the headings, in the
order of the page, are those that the visited slots pass over and take, slot by slot, and those that
are left.

* A heading that is taken has no finding that it is not where it belongs; one that is passed over or
  left has exactly one, and this names it.
* A slot that is required takes a heading or has exactly one finding that its heading is missing.
* There are no other findings but those below the headings that are taken, and these are accounted
  for in the same way. -/
theorem headings_accounted (template : List TemplateItem) (found : List HeadingTree) :
    Accounted template found (checkOutline template found).issues := by
  induction template using TemplateItem.level_induction generalizing found with
  | level template ih =>
      obtain ⟨encounters, left, course⟩ := exists_course template found
      set slots := TemplateItem.slotsOfAll template with isLevel
      have visited : (encounters.map (Encounter.toVisit slots)).map Visit.toEncounter
          = encounters := by
        simp [Function.comp_def, Encounter.toEncounter_toVisit]
      have extra : (left.map HeadingTree.toExtra).map (·.tree) = left := by
        simp [Function.comp_def, HeadingTree.toExtra]
      have issues : (checkOutline template found).issues =
          (encounters.map (Encounter.toVisit slots)).flatMap Visit.issues
            ++ (left.map HeadingTree.toExtra).flatMap Entry.issues := by
        simp [course.checkOutline_eq, flatMap_map, Encounter.issues_toVisit, HeadingTree.toExtra,
          Entry.issues, isLevel]
      rw [issues]
      refine .level ?_ ?_ ?_ ?_ ?_ ?_
      · rwa [visited, extra]
      · rw [extra, flatMap_map]
        simp only [Encounter.toVisit, map_append, map_map, Function.comp_def, map_id']
        exact course.headings
      · refine forall_mem_map.2 fun encounter mem => encounter.isSettled_toVisit slots ?_
        obtain ⟨met, behind, shares⟩ := course.shares mem
        exact shares.taken_fit
      · exact forall_mem_map.2 fun tree _ => ⟨exists_reportExtra tree, rfl⟩
      · rw [forall_mem_map]
        rintro encounter mem (childless : encounter.slot.children = [])
        exact forall_mem_map.2 fun tree _ => Slot.issuesBelow_eq_nil childless
      · rw [forall_mem_map]
        rintro encounter mem (nonempty : encounter.slot.children ≠ [])
        refine forall_mem_map.2 fun tree _ => ?_
        rw [Slot.issuesBelow_eq nonempty]
        exact ih encounter.slot (course.slot_mem mem) tree.children

end DocAudit
