import DocAudit.Proofs.Outline.Template
import DocAudit.Settings.Validity

/-!
# Valid templates

The search for a fault goes into every group and below every slot, so in a template without a fault
no item has one, wherever it stands (`TemplateItem.Occurs.fault?_eq_none`).  Nothing else is
searched for: `faultOfAll?_eq_none_iff_isUsable` says that the templates without a fault are those
that can be used.
-/

namespace DocAudit.TemplateItem

open List

variable {item : TemplateItem} {items template : List TemplateItem} {page : String}

lemma faultOfAll?_eq_none_iff :
    faultOfAll? page items = none ↔ ∀ item ∈ items, item.fault? page = none := by
  induction items with
  | nil => simp [faultOfAll?]
  | cons item items ih => simp [faultOfAll?, ih]

/-- A group without a fault has items, and they have no fault. -/
lemma of_groupFault?_eq_none
    (valid : (if items.isEmpty then some (.emptyGroup page) else faultOfAll? page items) = none) :
    items ≠ [] ∧ faultOfAll? page items = none := by
  split at valid
  · cases valid
  · next nonempty => exact ⟨mt List.isEmpty_iff.2 nonempty, valid⟩

/-- A slot without a fault has the level of a heading, and no fault is below it. -/
lemma of_slotFault?_eq_none {slot : Slot} (valid : slotFault? page slot = none) :
    (1 ≤ slot.level ∧ slot.level ≤ 6) ∧ faultOfAll? page slot.children = none := by
  obtain ⟨level, title, required, repeatable, children⟩ := slot
  rw [slotFault?] at valid
  split at valid
  · next inside => exact ⟨by simpa using inside, valid⟩
  · cases valid

/-- What occurs in a template without a fault has no fault. -/
lemma Occurs.fault?_eq_none (occurs : Occurs item template)
    (valid : faultOfAll? page template = none) :
    item.fault? page = none := by
  induction occurs with
  | here mem => exact faultOfAll?_eq_none_iff.1 valid _ mem
  | inAll mem _ ih => exact ih (of_groupFault?_eq_none (faultOfAll?_eq_none_iff.1 valid _ mem)).2
  | inOneOf mem _ ih => exact ih (of_groupFault?_eq_none (faultOfAll?_eq_none_iff.1 valid _ mem)).2
  | under mem _ ih => exact ih (of_slotFault?_eq_none (faultOfAll?_eq_none_iff.1 valid _ mem)).2

/-- In a template without a fault no group is empty. -/
lemma hasNoEmptyGroup_of_valid (page : String) (valid : faultOfAll? page template = none) :
    HasNoEmptyGroup template := by
  rintro items (occurs | occurs)
  · exact (of_groupFault?_eq_none (occurs.fault?_eq_none valid)).1
  · exact (of_groupFault?_eq_none (occurs.fault?_eq_none valid)).1

/-! ## Templates that can be used -/

/-- Wherever they stand in a template, slots have levels of headings and groups have items. -/
structure IsUsable (template : List TemplateItem) : Prop where
  levels : ∀ slot, Occurs (.slot slot) template → 1 ≤ slot.level ∧ slot.level ≤ 6
  groups : HasNoEmptyGroup template

/-- What occurs only in places of a template that can be used can be used. -/
lemma IsUsable.mono (usable : IsUsable template)
    (sub : ∀ item, Occurs item items → Occurs item template) :
    IsUsable items :=
  ⟨fun slot occurs => usable.levels slot (sub _ occurs), usable.groups.mono sub⟩

mutual

lemma fault?_eq_none_of_isUsable (page : String) :
    ∀ item : TemplateItem, IsUsable [item] → item.fault? page = none
  | .slot ⟨level, title, required, repeatable, children⟩, usable => by
      have inside := usable.levels _ (.here mem_cons_self)
      have below := faultOfAll?_eq_none_of_isUsable page children
        (usable.mono fun _ occurs => .under mem_cons_self occurs)
      rw [fault?, slotFault?, if_pos (by simpa using inside), below]
  | .all items, usable => by
      have nonempty := usable.groups items (.inl (.here mem_cons_self))
      have within := faultOfAll?_eq_none_of_isUsable page items
        (usable.mono fun _ occurs => .inAll mem_cons_self occurs)
      rw [fault?, if_neg (mt List.isEmpty_iff.1 nonempty), within]
  | .oneOf items, usable => by
      have nonempty := usable.groups items (.inr (.here mem_cons_self))
      have within := faultOfAll?_eq_none_of_isUsable page items
        (usable.mono fun _ occurs => .inOneOf mem_cons_self occurs)
      rw [fault?, if_neg (mt List.isEmpty_iff.1 nonempty), within]

lemma faultOfAll?_eq_none_of_isUsable (page : String) :
    ∀ items : List TemplateItem, IsUsable items → faultOfAll? page items = none
  | [], _ => by rw [faultOfAll?]
  | item :: rest, usable => by
      have first := fault?_eq_none_of_isUsable page item
        (usable.mono fun _ occurs => occurs_cons.2 (.inl occurs))
      have behind :=
        faultOfAll?_eq_none_of_isUsable page rest (usable.mono fun _ occurs => occurs.behind)
      rw [faultOfAll?, first, behind]
      rfl

end

/-- **The search for a fault reaches every depth,** and it finds no others: a template has none
exactly if it can be used. -/
theorem faultOfAll?_eq_none_iff_isUsable :
    faultOfAll? page template = none ↔ IsUsable template := by
  refine ⟨fun valid => ⟨fun slot occurs => ?_, hasNoEmptyGroup_of_valid page valid⟩,
    faultOfAll?_eq_none_of_isUsable page template⟩
  exact (of_slotFault?_eq_none (occurs.fault?_eq_none valid)).1

end DocAudit.TemplateItem
