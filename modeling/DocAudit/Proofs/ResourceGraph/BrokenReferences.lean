import DocAudit.Proofs.ResourceGraph.References

/-!
# Broken references

The references of definitions to types that nothing declares (`brokenReferences`).  An issue is
written for the first of each name of a resource and name of a type (`mem_checkReferences_iff`), so
a broken reference has no issue of its own if an earlier definition of the same name has it, too.
-/

namespace DocAudit.ResourceGraph

open List Definitions

variable {definitions : List Resource} {enums : List String} {α κ : Type}

/-! ## The first of its key -/

/-- Where only the first entry of each key is kept, an entry is kept if looking for its key finds
it. -/
lemma mem_eraseDupsBy_iff [BEq κ] [LawfulBEq κ] (key : α → κ) {a : α} : ∀ list : List α,
    a ∈ list.eraseDupsBy (fun b c => key b == key c) ↔ list.find? (key · == key a) = some a
  | [] => by simp
  | first :: rest => by
      have ih :=
        mem_eraseDupsBy_iff key (rest.filter fun b => (key b == key first) = false) (a := a)
      rw [eraseDupsBy_cons, mem_cons, ih]
      by_cases same : key first = key a
      · rw [find?_cons_of_pos (by simpa using same), Option.some_inj, @eq_comm _ first]
        refine or_iff_left fun later => ?_
        simpa [same] using mem_of_find?_eq_some later
      · have other : a ≠ first := by
          rintro rfl
          exact same rfl
        rw [find?_cons_of_neg (by simpa using same), or_iff_right other, find?_filter]
        have skips (b : α) : decide (decide ((key b == key first) = false) = true
            ∧ (key b == key a) = true)
            = (key b == key a) := by
          by_cases found : key b = key a
          · simp [found, Ne.symm same]
          · simp [found]
        rw [funext skips]
termination_by list => list.length
decreasing_by exact Nat.lt_succ_of_le (length_filter_le _ rest)

/-! ## References that nothing declares -/

/-- All references that definitions make. -/
def madeReferences (definitions : List Resource) : List (Resource × TypeReference) :=
  definitions.flatMap fun definition =>
    (TypeReference.ofResource definition.baseType definition).map fun reference =>
      (definition, reference)

instance (name : String) : Decidable (Declared definitions enums name) :=
  inferInstanceAs (Decidable (_ ∨ _ ∨ _))

instance (resource : Resource) (reference : TypeReference) :
    Decidable (Recognized definitions enums resource reference) :=
  inferInstanceAs (Decidable (_ ∨ _))

/-- The references to types that nothing declares. -/
def brokenReferences (definitions : List Resource) (enums : List String) :
    List (Resource × TypeReference) :=
  (madeReferences definitions).filter fun entry => ¬ Recognized definitions enums entry.1 entry.2

lemma mem_brokenReferences_iff {entry : Resource × TypeReference} :
    entry ∈ brokenReferences definitions enums ↔
      entry.1 ∈ definitions ∧ entry.2 ∈ TypeReference.ofResource entry.1.baseType entry.1
        ∧ ¬ Recognized definitions enums entry.1 entry.2 := by
  obtain ⟨definition, reference⟩ := entry
  simp only [brokenReferences, madeReferences, mem_filter, mem_flatMap, mem_map, Prod.mk.injEq,
    decide_eq_true_iff]
  constructor
  · rintro ⟨⟨_, mem, _, isReference, rfl, rfl⟩, broken⟩
    exact ⟨mem, isReference, broken⟩
  · rintro ⟨mem, isReference, broken⟩
    exact ⟨⟨definition, mem, reference, isReference, rfl, rfl⟩, broken⟩

/-! ## References in the graph -/

/-- A definition as it stands in the graph. -/
def placed (definitions : List Resource) (definition : Resource) : Resource :=
  linked (reconciled definitions) (agreed definitions definition)

lemma name_placed (definition : Resource) :
    (placed definitions definition).name = definition.name :=
  name_agreed definition

lemma file_placed (definition : Resource) :
    (placed definitions definition).file = definition.file :=
  file_agreed definition

lemma parameters_placed (definition : Resource) :
    (placed definitions definition).parameters = definition.parameters := by
  unfold placed linked agreed
  split <;> rfl

lemma resources_eq_map_placed :
    (resolve definitions).value.resources = definitions.map (placed definitions) := by
  rw [resources_resolve, reconciled, map_map]
  rfl

lemma references_resolve : (resolve definitions).value.references
    = (madeReferences definitions).map fun entry => (placed definitions entry.1, entry.2) := by
  have declared : (resolve definitions).value.declaredBases = definitions.map (·.baseType) := rfl
  rw [references, resources_eq_map_placed, declared, zip_map', flatMap_map,
    madeReferences, map_flatMap]
  refine flatMap_congr fun definition _ => ?_
  simp only [TypeReference.ofResource, parameters_placed, map_map, Function.comp_def]

/-- What is reported about a reference depends on the name and the page of the definition. -/
lemma unresolved_placed (known : List String) (definition : Resource) (reference : TypeReference) :
    reference.unresolved known (placed definitions definition)
      = reference.unresolved known definition := by
  simp only [TypeReference.unresolved, TypeReference.qualified, Resource.namespace?,
    name_placed, file_placed]

lemma reportKey_placed (entry : Resource × TypeReference) :
    reportKey (placed definitions entry.1, entry.2) = reportKey entry := by
  simp only [reportKey, TypeReference.qualified, Resource.namespace?, name_placed]

lemma flagged_resolve : (resolve definitions).value.flagged enums
    = (brokenReferences definitions enums).map fun entry =>
      (placed definitions entry.1, entry.2) := by
  rw [flagged, references_resolve, filter_map, brokenReferences]
  refine congrArg _ (filter_congr fun entry _ => ?_)
  have same : Recognized definitions enums (placed definitions entry.1) entry.2 ↔
      Recognized definitions enums entry.1 entry.2 := by
    simp only [Recognized, TypeReference.qualified, Resource.namespace?, name_placed]
  rw [Bool.eq_iff_iff, decide_eq_true_iff, ← same, ← isResolved_iff,
    Bool.not_eq_true, ← Bool.not_eq_true']
  rfl

/-! ## Issues -/

/-- **An issue is written for the first broken reference of each key.** -/
theorem mem_checkReferences_iff {issue : Issue} :
    issue ∈ (resolve definitions).value.checkReferences enums ↔
      ∃ entry ∈ brokenReferences definitions enums,
        (brokenReferences definitions enums).find? (reportKey · == reportKey entry) = some entry
          ∧ entry.2.unresolved ((resolve definitions).value.knownNames enums) entry.1 = issue := by
  let place (entry : Resource × TypeReference) := (placed definitions entry.1, entry.2)
  have looked (key : String × String) : ((brokenReferences definitions enums).map place).find?
      (reportKey · == key)
      = ((brokenReferences definitions enums).find? (reportKey · == key)).map place := by
    simp only [find?_map, Function.comp_def, place, reportKey_placed]
  rw [checkReferences_eq, flagged_resolve, mem_map]
  simp only [mem_eraseDupsBy_iff]
  constructor
  · rintro ⟨other, isFirst, rfl⟩
    obtain ⟨entry, found, rfl⟩ := Option.map_eq_some_iff.1 ((looked _).symm.trans isFirst)
    rw [reportKey_placed] at found
    exact ⟨entry, mem_of_find?_eq_some found, found, (unresolved_placed ..).symm⟩
  · rintro ⟨entry, -, found, rfl⟩
    refine ⟨place entry, (looked _).trans ?_, unresolved_placed ..⟩
    rw [reportKey_placed, found, Option.map_some]

end DocAudit.ResourceGraph
