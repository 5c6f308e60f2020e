import Mathlib.Data.List.Induction
import DocAudit.Outline.Template

/-!
# Going through a template

Groups stand side by side on a level while the children of a slot stand below it, so there are two
ways to go through a template: along a queue of items, where a group is replaced by items of its own
(`queue_induction`), and from a level to the levels below its slots (`level_induction`).

`Occurs` says that an item stands anywhere in a template, on whatever level and in whatever groups.
-/

namespace DocAudit

open List

/-! ## The best fit -/

namespace Fit

lemma best?_concat (fits : List Fit) (fit : Fit) :
    best? (fits ++ [fit]) = some ((best? fits).elim fit (·.better fit)) := by
  rw [best?, foldl_append]
  rfl

lemma best?_mem {fits : List Fit} {fit : Fit} (best : best? fits = some fit) :
    fit ∈ fits := by
  have better_eq : ∀ a b : Fit, a.better b = a ∨ a.better b = b := by
    rintro (_ | _ | _) (_ | _ | _) <;> decide
  induction fits using List.reverseRecOn generalizing fit with
  | nil => cases best
  | append_singleton fits next ih =>
      rw [best?_concat] at best
      cases before : best? fits with
      | none =>
          rw [before] at best
          exact mem_append_right _ (by simpa using best.symm)
      | some first =>
          rw [before] at best
          rcases better_eq first next with old | new
          · exact mem_append_left _ (ih (before.trans (old ▸ best)))
          · exact mem_append_right _ (by simpa [new] using best.symm)

lemma best?_eq_none_iff {fits : List Fit} : best? fits = none ↔ fits = [] := by
  induction fits using List.reverseRecOn with
  | nil => exact iff_of_true rfl rfl
  | append_singleton before last _ =>
      rw [best?_concat]
      simp

end Fit

namespace TemplateItem

/-! ## Anywhere in a template -/

/-- An item stands somewhere in a template: on its level, in a group, or under a slot. -/
inductive Occurs (item : TemplateItem) : List TemplateItem → Prop
  | here {items} : item ∈ items → Occurs item items
  | inAll {items group} : .all group ∈ items → Occurs item group → Occurs item items
  | inOneOf {items group} : .oneOf group ∈ items → Occurs item group → Occurs item items
  | under {items slot} : .slot slot ∈ items → Occurs item slot.children → Occurs item items

/-- No group of a template is empty. -/
def HasNoEmptyGroup (template : List TemplateItem) : Prop :=
  ∀ items, Occurs (.all items) template ∨ Occurs (.oneOf items) template → items ≠ []

/-- Nothing in a template is left to be chosen. -/
def HasNoChoice (template : List TemplateItem) : Prop :=
  ∀ items, ¬ Occurs (.oneOf items) template

variable {item other : TemplateItem} {items rest template : List TemplateItem} {slot : Slot}

/-! ## What is chosen -/

/-- In a group that is not empty, an item is chosen. -/
lemma exists_choice (nonempty : items ≠ []) (found : List HeadingTree) :
    ∃ item, items[choice items found]? = some item := by
  suffices inside : choice items found < items.length from ⟨_, getElem?_eq_getElem inside⟩
  rw [choice]
  split
  · next fit best =>
      obtain ⟨item, mem, opens⟩ := mem_filterMap.1 (Fit.best?_mem best)
      exact findIdx_lt_length_of_exists ⟨item, mem, by rw [opens, beq_self_eq_true]⟩
  · exact length_pos_iff.2 nonempty

/-! ## Along a queue -/

lemma sizeOf_append (items rest : List TemplateItem) :
    sizeOf (items ++ rest) + 1 = sizeOf items + sizeOf rest := by
  induction items with
  | nil =>
      rw [nil_append, List.nil.sizeOf_spec]
      omega
  | cons item items ih =>
      rw [cons_append, List.cons.sizeOf_spec, List.cons.sizeOf_spec]
      omega

/-- Induction along a queue of items, where groups are replaced by items of theirs. -/
@[elab_as_elim]
theorem queue_induction {motive : List TemplateItem → Prop} (nil : motive [])
    (slot : ∀ slot rest, motive rest → motive (.slot slot :: rest))
    (all : ∀ items rest, motive (items ++ rest) → motive (.all items :: rest))
    (oneOf : ∀ items rest, motive rest → (∀ item ∈ items, motive (item :: rest)) →
      motive (.oneOf items :: rest)) (queue : List TemplateItem) : motive queue := by
  induction size : sizeOf queue using Nat.strongRecOn generalizing queue with
  | ind _ ih =>
      subst size
      match queue with
      | [] => exact nil
      | .slot own :: rest =>
          refine slot own rest (ih _ ?_ rest rfl)
          rw [List.cons.sizeOf_spec]
          omega
      | .all items :: rest =>
          refine all items rest (ih _ ?_ _ rfl)
          have whole := sizeOf_append items rest
          rw [List.cons.sizeOf_spec, TemplateItem.all.sizeOf_spec]
          omega
      | .oneOf items :: rest =>
          refine oneOf items rest (ih _ ?_ rest rfl) fun item mem => ih _ ?_ _ rfl
          · rw [List.cons.sizeOf_spec]
            omega
          · have smaller := sizeOf_lt_of_mem mem
            rw [List.cons.sizeOf_spec, List.cons.sizeOf_spec, TemplateItem.oneOf.sizeOf_spec]
            omega

/-! ### What occurs -/

lemma Occurs.mono (occurs : Occurs item items) (sub : items ⊆ rest) : Occurs item rest := by
  cases occurs with
  | here mem => exact .here (sub mem)
  | inAll mem inside => exact .inAll (sub mem) inside
  | inOneOf mem inside => exact .inOneOf (sub mem) inside
  | under mem inside => exact .under (sub mem) inside

/-- What stands behind the first item stands in the template. -/
lemma Occurs.behind (occurs : Occurs item rest) : Occurs item (other :: rest) :=
  occurs.mono (subset_cons_self ..)

lemma occurs_append : Occurs item (items ++ rest) ↔ Occurs item items ∨ Occurs item rest := by
  constructor
  · rintro (mem | ⟨mem, inside⟩ | ⟨mem, inside⟩ | ⟨mem, inside⟩)
    · exact (mem_append.1 mem).imp .here .here
    · exact (mem_append.1 mem).imp (.inAll · inside) (.inAll · inside)
    · exact (mem_append.1 mem).imp (.inOneOf · inside) (.inOneOf · inside)
    · exact (mem_append.1 mem).imp (.under · inside) (.under · inside)
  · rintro (occurs | occurs)
    · exact occurs.mono (subset_append_left ..)
    · exact occurs.mono (subset_append_right ..)

lemma occurs_cons : Occurs item (other :: rest) ↔ Occurs item [other] ∨ Occurs item rest := by
  rw [← occurs_append, singleton_append]

lemma not_occurs_nil : ¬ Occurs item [] := by
  rintro (mem | ⟨mem, -⟩ | ⟨mem, -⟩ | ⟨mem, -⟩) <;> cases mem

/-- What occurs from a slot on is the slot, or stands under it or behind it. -/
lemma occurs_slot :
    Occurs item (.slot slot :: rest) ↔ item = .slot slot ∨ Occurs item slot.children
      ∨ Occurs item rest := by
  rw [occurs_cons, ← or_assoc]
  refine or_congr_left ⟨?_, ?_⟩
  · rintro (mem | ⟨mem, inside⟩ | ⟨mem, inside⟩ | ⟨mem, inside⟩) <;> cases mem_singleton.1 mem
    · exact .inl rfl
    · exact .inr inside
  · rintro (rfl | inside)
    · exact .here mem_cons_self
    · exact .under mem_cons_self inside

/-- What occurs from an `all` group on is the group, or stands in it or behind it. -/
lemma occurs_all :
    Occurs item (.all items :: rest) ↔ item = .all items ∨ Occurs item items
      ∨ Occurs item rest := by
  rw [occurs_cons, ← or_assoc]
  refine or_congr_left ⟨?_, ?_⟩
  · rintro (mem | ⟨mem, inside⟩ | ⟨mem, inside⟩ | ⟨mem, inside⟩) <;> cases mem_singleton.1 mem
    · exact .inl rfl
    · exact .inr inside
  · rintro (rfl | inside)
    · exact .here mem_cons_self
    · exact .inAll mem_cons_self inside

/-- What stands in an `all` group or behind it stands in the template. -/
lemma Occurs.of_all (occurs : Occurs item (items ++ rest)) : Occurs item (.all items :: rest) :=
  occurs_all.2 (.inr (occurs_append.1 occurs))

/-- What stands in an item of a `oneOf` group or behind the group stands in the template. -/
lemma Occurs.of_oneOf (mem : other ∈ items) (occurs : Occurs item (other :: rest)) :
    Occurs item (.oneOf items :: rest) := by
  rcases occurs_cons.1 occurs with inside | behind
  · exact .inOneOf mem_cons_self (inside.mono (by simpa using mem))
  · exact behind.behind

lemma HasNoEmptyGroup.mono (groups : HasNoEmptyGroup template)
    (sub : ∀ item, Occurs item items → Occurs item template) : HasNoEmptyGroup items :=
  fun group occurs => groups group (occurs.imp (sub _) (sub _))

lemma HasNoChoice.mono (noChoice : HasNoChoice template)
    (sub : ∀ item, Occurs item items → Occurs item template) : HasNoChoice items :=
  fun group occurs => noChoice group (sub _ occurs)

/-! ## From level to level -/

lemma sizeOf_children_lt (slot : Slot) :
    sizeOf slot.children < sizeOf (TemplateItem.slot slot) := by
  obtain ⟨level, title, required, repeatable, children⟩ := slot
  change sizeOf children < _
  rw [TemplateItem.slot.sizeOf_spec, Slot.mk.sizeOf_spec]
  omega

lemma Occurs.sizeOf_lt (occurs : Occurs item template) : sizeOf item < sizeOf template := by
  induction occurs with
  | here mem => exact sizeOf_lt_of_mem mem
  | inAll mem _ ih =>
      have smaller := sizeOf_lt_of_mem mem
      rw [TemplateItem.all.sizeOf_spec] at smaller
      omega
  | inOneOf mem _ ih =>
      have smaller := sizeOf_lt_of_mem mem
      rw [TemplateItem.oneOf.sizeOf_spec] at smaller
      omega
  | under mem _ ih =>
      exact Nat.lt_trans ih (Nat.lt_trans (sizeOf_children_lt _) (sizeOf_lt_of_mem mem))

lemma slotsOfAll_append : slotsOfAll (items ++ rest) = slotsOfAll items ++ slotsOfAll rest := by
  induction items with
  | nil => rfl
  | cons item items ih => rw [cons_append, slotsOfAll, slotsOfAll, ih, append_assoc]

/-- The slots of an `all` group are those of its items. -/
lemma slotsOfAll_all : slotsOfAll (.all items :: rest) = slotsOfAll (items ++ rest) := by
  rw [slotsOfAll_append, slotsOfAll, slots]

lemma mem_slotsOfAll : slot ∈ slotsOfAll items ↔ ∃ item ∈ items, slot ∈ item.slots := by
  induction items with
  | nil => simp [slotsOfAll]
  | cons item items ih => simp [slotsOfAll, ih]

/-- A slot on the level of a template is there, or in a group. -/
lemma occurs_of_mem_slots (mem : slot ∈ slotsOfAll template) : Occurs (.slot slot) template := by
  induction template using queue_induction with
  | nil => cases mem
  | slot own rest ih =>
      rw [slotsOfAll, slots, singleton_append, mem_cons] at mem
      rcases mem with rfl | behind
      · exact .here mem_cons_self
      · exact (ih behind).behind
  | all items rest ih => exact (ih (slotsOfAll_all ▸ mem)).of_all
  | oneOf items rest ih ihItems =>
      rw [slotsOfAll, slots, mem_append, mem_slotsOfAll] at mem
      rcases mem with ⟨item, isItem, inside⟩ | behind
      · exact (ihItems item isItem (mem_slotsOfAll.2 ⟨item, mem_cons_self, inside⟩)).of_oneOf isItem
      · exact (ih behind).behind

/-- What stands among the children of a slot of a template stands in the template. -/
lemma Occurs.of_children (isSlot : Occurs (.slot slot) template)
    (occurs : Occurs item slot.children) :
    Occurs item template := by
  generalize same : TemplateItem.slot slot = own at isSlot
  induction isSlot with
  | here mem => exact .under (same ▸ mem) occurs
  | inAll mem _ ih => exact .inAll mem ih
  | inOneOf mem _ ih => exact .inOneOf mem ih
  | under mem _ ih => exact .under mem ih

/-- Induction from level to level: what holds of a template if it holds of the children of all slots
on its level holds of every template. -/
@[elab_as_elim]
theorem level_induction {motive : List TemplateItem → Prop}
    (level : ∀ template, (∀ slot ∈ slotsOfAll template, motive slot.children) → motive template)
    (template : List TemplateItem) : motive template := by
  induction size : sizeOf template using Nat.strongRecOn generalizing template with
  | ind _ ih =>
      subst size
      refine level template fun slot mem => ih _ ?_ slot.children rfl
      exact Nat.lt_trans (sizeOf_children_lt slot) (occurs_of_mem_slots mem).sizeOf_lt

end TemplateItem

end DocAudit
