import DocAudit.Proofs.Outline.Conforms

/-!
# Choice in a group

Which item of a `oneOf` group is chosen, if the headings that are left are those that one of the
items asks for and have nothing to do with the others.

A heading that fits an opener of an item speaks for the item
(`TemplateItem.openingFit?_eq_none_iff`).  The opener of an `all` group is its first member, whether
or not the page has to have it.  So an item that is not the first of the group is chosen exactly if
one of its openers is on the page (`choice_iff_opened`), and a page that does without the optional
heading at the beginning of an item has the item passed over (`absent_opener_not_chosen`).
-/

namespace DocAudit

open List Conformity

namespace TemplateItem

variable {item : TemplateItem} {items : List TemplateItem} {slots : List Slot} {slot : Slot}
  {found : List HeadingTree} {position : ℕ}

/-! ## Openers -/

mutual

lemma openers_subset : ∀ item : TemplateItem, item.openers ⊆ item.slots
  | .slot _ => List.Subset.refl _
  | .all items => openersOfFirst_subset items
  | .oneOf items => openersOfAll_subset items

lemma openersOfFirst_subset : ∀ items : List TemplateItem, openersOfFirst items ⊆ slotsOfAll items
  | [] => nil_subset _
  | item :: _ => List.Subset.trans (openers_subset item) (subset_append_left ..)

lemma openersOfAll_subset : ∀ items : List TemplateItem, openersOfAll items ⊆ slotsOfAll items
  | [] => nil_subset _
  | item :: rest =>
      append_subset.2 ⟨List.Subset.trans (openers_subset item) (subset_append_left ..),
      List.Subset.trans (openersOfAll_subset rest) (subset_append_right ..)⟩

end

/-- An item has nothing to open with if no heading fits one of its openers. -/
lemma openingFit?_eq_none_iff :
    item.openingFit? found = none ↔ ∀ slot ∈ item.openers, ∀ tree ∈ found,
      slot.fits tree = false := by
  simp [openingFit?, Fit.best?_eq_none_iff, Slot.fits]

lemma mem_openersOfAll : slot ∈ openersOfAll items ↔ ∃ item ∈ items, slot ∈ item.openers := by
  induction items with
  | nil => simp [openersOfAll]
  | cons item items ih => simp [openersOfAll, ih]

/-- If no other item has anything to open with, an item is chosen exactly if it is the first or
has. -/
lemma choice_eq_iff (here : items[position]? = some item)
    (others : ∀ index other, items[index]? = some other → index ≠ position →
      other.openingFit? found = none) :
    choice items found = position ↔ position = 0 ∨ item.openingFit? found ≠ none := by
  cases opens : item.openingFit? found with
  | none =>
      have nothing : items.filterMap (·.openingFit? found) = [] := by
        refine filterMap_eq_nil_iff.2 fun other mem => ?_
        obtain ⟨index, isOther⟩ := mem_iff_getElem?.1 mem
        rcases eq_or_ne index position with rfl | elsewhere
        · rwa [← Option.some.inj (here.symm.trans isOther)]
        · exact others index other isOther elsewhere
      rw [choice, nothing]
      simp [Fit.best?, eq_comm]
  | some fit =>
      refine iff_of_true ?_ (.inr (Option.some_ne_none fit))
      have ranked : Fit.best? (items.filterMap (·.openingFit? found)) ≠ none := by
        rw [Ne, Fit.best?_eq_none_iff, filterMap_eq_nil_iff]
        exact fun nothing => Option.some_ne_none fit (opens ▸ nothing item (mem_of_getElem? here))
      obtain ⟨best, isBest⟩ := Option.ne_none_iff_exists'.1 ranked
      -- only the item at the position has anything to open with, so its fit is the best
      have only : ∀ index (bound : index < items.length),
          (items[index].openingFit? found == some best) = true → index = position := by
        intro index bound same
        by_contra elsewhere
        have unranked := others index _ (getElem?_eq_getElem bound) elsewhere
        rw [unranked] at same
        cases same
      have occurs : ∃ other ∈ items, (other.openingFit? found == some best) = true := by
        obtain ⟨other, mem, opens⟩ := mem_filterMap.1 (Fit.best?_mem isBest)
        exact ⟨other, mem, by rw [opens, beq_self_eq_true]⟩
      rw [choice, isBest]
      have bound := findIdx_lt_length_of_exists occurs
      exact only _ bound (findIdx_getElem (w := bound))

end TemplateItem

/-- The slot that comes first on a way through a queue without empty groups opens the queue. -/
lemma Selects.mem_openers {items : List TemplateItem} {slot : Slot} {slots all : List Slot}
    (selects : Selects items all) (first : all = slot :: slots)
    (groups : TemplateItem.HasNoEmptyGroup items) : slot ∈ TemplateItem.openersOfFirst items := by
  induction selects with
  | nil => cases first
  | slot _ _ =>
      cases first
      exact mem_singleton_self _
  | @all items rest _ _ ih =>
      have opens := ih first (groups.mono fun _ => .of_all)
      cases items with
      | nil => exact absurd rfl (groups [] (.inl (.here mem_cons_self)))
      | cons item items => exact opens
  | @oneOf items item rest _ mem _ ih =>
      have opens := ih first (groups.mono fun _ => .of_oneOf mem)
      exact TemplateItem.mem_openersOfAll.2 ⟨item, mem, opens⟩

/-! ## Groups and what the page has -/

variable {item : TemplateItem} {items : List TemplateItem} {slots : List Slot} {parts : List Part}

/-- Headings ask for what an item has, part for part, and something of it is required. -/
structure Instantiates (item : TemplateItem) (parts : List Part) : Prop where
  selects : Selects [item] (parts.map (·.slot))
  filled : ∀ part ∈ parts, part.IsFilled
  required : ∃ part ∈ parts, part.slot.required = true

lemma walkAll_singleton {found : List HeadingTree} :
    walkAll slots [item] found = walk slots item found := by
  rw [walkAll]
  change (⟨_, _ ++ []⟩ : Audit _) = _
  rw [append_nil]
  rfl

/-- **An item that the page instantiates is chosen exactly if it is opened.**  Let the headings that
are left be what an item of a group asks for, and let no heading fit a slot of another item.

* The item is chosen if and only if it is the first of the group or some heading fits one of its
  openers.  So it is chosen if its first slot takes a heading.
* If it is chosen, the group counts as the item.  If moreover no heading fits a slot other than its
  own, and the groups inside of the item resolve to what the page has, all headings are taken, and
  there are no findings but those below them: none says that a required heading is missing. -/
theorem choice_iff_opened (items : List TemplateItem) (item : TemplateItem) (position : ℕ)
    (parts : List Part) (here : items[position]? = some item)
    (instantiates : Instantiates item parts)
    (foreign : ∀ index other, items[index]? = some other → index ≠ position →
      ∀ slot ∈ other.slots, ∀ part ∈ parts, ∀ tree ∈ part.block, slot.fits tree = false) :
    let found := parts.flatMap (·.block)
    (TemplateItem.choice items found = position ↔
        position = 0 ∨ ∃ slot ∈ item.openers, ∃ tree ∈ found, slot.fits tree = true)
    ∧ (∀ first more, parts = first :: more → first.block ≠ [] →
      TemplateItem.HasNoEmptyGroup [item] →
        TemplateItem.choice items found = position)
    ∧ (TemplateItem.choice items found = position → ∀ slots,
        walk slots (.oneOf items) found = walk slots item found
        ∧ (AreClear parts → Resolves [item] parts → walk slots (.oneOf items) found
            = ⟨[], parts.flatMap fun part => part.block.flatMap part.slot.issuesBelow⟩)) := by
  intro found
  have chosen_iff := TemplateItem.choice_eq_iff here fun index other isOther elsewhere => by
    refine TemplateItem.openingFit?_eq_none_iff.2 fun slot opens tree (mem : tree ∈ found) => ?_
    obtain ⟨part, isPart, mem⟩ := mem_flatMap.1 mem
    exact foreign index other isOther elsewhere slot (TemplateItem.openers_subset other opens)
      part isPart tree mem
  have opens_iff : item.openingFit? found ≠ none ↔
      ∃ slot ∈ item.openers, ∃ tree ∈ found, slot.fits tree = true := by
    rw [Ne, TemplateItem.openingFit?_eq_none_iff]
    simp only [not_forall, Bool.not_eq_false, exists_prop]
  rw [opens_iff] at chosen_iff
  refine ⟨chosen_iff, ?_, fun chosen slots => ⟨?_, fun clear resolves => ?_⟩⟩
  · -- the first slot of the way is an opener, and a heading that it names fits it
    rintro first more rfl nonempty groups
    obtain ⟨tree, mem⟩ := exists_mem_of_ne_nil _ nonempty
    have named := (instantiates.filled first mem_cons_self).named tree mem
    have opens : first.slot ∈ item.openers := instantiates.selects.mem_openers rfl groups
    exact chosen_iff.2 (.inr ⟨_, opens, tree,
      mem_flatMap.2 ⟨first, mem_cons_self, mem⟩, named.fits⟩)
  · exact walk_oneOf (chosen ▸ here)
  · -- the group resolves as the item does, so that the course of its parts is that of the group
    have resolves : Resolves [.oneOf items] parts := .oneOf (chosen ▸ here) resolves
    have course := resolves.course instantiates.filled clear
    rw [← walkAll_singleton, course.walkAll_eq, flatMap_map]
    exact congrArg _ (flatMap_congr fun part mem =>
      part.issues_toEncounter (instantiates.filled part mem))

/-- The second item of a group is chosen for a page that has its headings, and there are no
findings. -/
theorem opened_item_chosen :
    let request : Slot := ⟨2, "Request", true, false, []⟩
    let response : Slot := ⟨2, "Response", false, false, []⟩
    let item : TemplateItem := .all [.slot request, .slot response]
    let items : List TemplateItem := [.slot ⟨2, "Examples", true, false, []⟩, item]
    let parts : List Part := [⟨request, [.node ⟨2, "Request", 1⟩ []]⟩, ⟨response, []⟩]
    items[1]? = some item ∧ Instantiates item parts
      ∧ (∀ index other, items[index]? = some other → index ≠ 1 →
          ∀ slot ∈ other.slots, ∀ part ∈ parts, ∀ tree ∈ part.block, slot.fits tree = false)
      ∧ AreClear parts ∧ Resolves [item] parts
      ∧ TemplateItem.choice items (parts.flatMap (·.block)) = 1
      ∧ walk (TemplateItem.slotsOfAll items) (.oneOf items) (parts.flatMap (·.block))
        = ⟨[], []⟩ := by
  intro request response item items parts
  have instantiates : Instantiates item parts :=
    ⟨.all (.slot (.slot .nil)), by decide +kernel, by decide +kernel⟩
  have foreign : ∀ index other, items[index]? = some other → index ≠ 1 →
      ∀ slot ∈ other.slots, ∀ part ∈ parts, ∀ tree ∈ part.block, slot.fits tree = false := by
    rintro (_ | _ | index) other isOther elsewhere
    · cases isOther
      decide +kernel
    · exact absurd rfl elsewhere
    · cases isOther
  have opens : ∃ slot ∈ item.openers, ∃ tree ∈ parts.flatMap (·.block), slot.fits tree = true := by
    decide +kernel
  have clear : AreClear parts := by decide +kernel
  have resolves : Resolves [item] parts :=
    .all (@Resolves.slot ⟨request, _⟩ _ _ (@Resolves.slot ⟨response, _⟩ _ _ .nil))
  obtain ⟨chosen_iff, -, walk_eq⟩ := choice_iff_opened items item 1 parts rfl instantiates foreign
  have chosen := chosen_iff.2 (.inr opens)
  exact ⟨rfl, instantiates, foreign, clear, resolves, chosen, (walk_eq chosen _).2 clear resolves⟩

/-- An item that begins with an optional heading is passed over for a page that does without this
heading, though the page has what the item asks for and nothing of the other item. -/
theorem absent_opener_not_chosen :
    let examples : Slot := ⟨2, "Examples", true, false, []⟩
    let request : Slot := ⟨2, "Request", false, false, []⟩
    let response : Slot := ⟨2, "Response", true, false, []⟩
    let item : TemplateItem := .all [.slot request, .slot response]
    let items : List TemplateItem := [.slot examples, item]
    let heading : HeadingTree := .node ⟨2, "Response", 1⟩ []
    let parts : List Part := [⟨request, []⟩, ⟨response, [heading]⟩]
    parts.flatMap (·.block) = [heading] ∧ Instantiates item parts ∧ AreClear parts
      ∧ examples.fits heading = false ∧ TemplateItem.choice items [heading] = 0
      ∧ (checkOutline [.oneOf items] [heading]).issues.map (·.code)
          = [.requiredHeaderMissing, .extraHeaderFound]
      ∧ (checkOutline [item] [heading]).issues = [] := by
  intro examples request response item items heading parts
  have instantiates : Instantiates item parts :=
    ⟨.all (.slot (.slot .nil)), by decide +kernel, by decide +kernel⟩
  exact ⟨rfl,
    instantiates, by decide +kernel, by decide +kernel, by decide +kernel, by decide +kernel,
    by decide +kernel⟩

end DocAudit
