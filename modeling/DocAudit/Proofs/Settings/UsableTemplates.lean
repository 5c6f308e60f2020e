import DocAudit.Proofs.Outline.Course
import DocAudit.Proofs.Settings.Validity
import DocAudit.Settings.Resolution

/-!
# Templates of settings

Settings are only given if they have no fault, so their templates can be used
(`Settings.isUsable_of_resolve`).  `Reaches` follows a comparison to the `oneOf` groups that it
comes to, and each of them occurs in the template (`Reaches.occurs`).  So a comparison with a
template of settings never comes to a group that leaves it without an item to go on with:
`resolved_templates_usable`.
-/

namespace DocAudit

open List Conformity TemplateItem

/-- Comparing headings with items comes to a `oneOf` group when some headings are left.  Items are
met in order, where an `all` group is replaced by its items and a `oneOf` group by the item that is
chosen, and the headings that take a slot are followed below it. -/
inductive Reaches (group : List TemplateItem) (left : List HeadingTree) :
    List TemplateItem → List HeadingTree → Prop
  | here {rest} : Reaches group left (.oneOf group :: rest) left
  | chosen {items item rest found} : items[choice items found]? = some item →
      Reaches group left (item :: rest) found → Reaches group left (.oneOf items :: rest) found
  | noItem {rest found} : Reaches group left rest found →
      Reaches group left (.oneOf [] :: rest) found
  | all {items rest found} : Reaches group left (items ++ rest) found →
      Reaches group left (.all items :: rest) found
  | behind {slot : Slot} {rest found} : Reaches group left rest (slot.meet found).rest →
      Reaches group left (.slot slot :: rest) found
  | under {slot : Slot} {rest found tree} : tree ∈ (slot.meet found).taken →
      Reaches group left slot.children tree.children → Reaches group left (.slot slot :: rest) found

variable {group template : List TemplateItem} {left found : List HeadingTree}

/-- A group that is reached occurs in the template. -/
lemma Reaches.occurs (reaches : Reaches group left template found) :
    Occurs (.oneOf group) template := by
  induction reaches with
  | here => exact .here mem_cons_self
  | chosen chosen _ ih => exact ih.of_oneOf (mem_of_getElem? chosen)
  | noItem _ ih => exact ih.behind
  | all _ ih => exact ih.of_all
  | behind _ ih => exact ih.behind
  | under _ _ ih => exact .under mem_cons_self ih

namespace Settings

variable {overlay : Toml.Value} {settings : Settings}

/-- Settings that are given have no fault. -/
lemma fault?_eq_none_of_resolve (resolved : resolve overlay = .ok settings) :
    settings.fault? = none := by
  rw [resolve] at resolved
  split at resolved
  · cases resolved
  · split at resolved
    · cases resolved
    · next noFault =>
        cases resolved
        exact noFault

/-- Settings that are given have templates that can be used. -/
lemma isUsable_of_resolve (resolved : resolve overlay = .ok settings) :
    IsUsable settings.templates.resource ∧ IsUsable settings.templates.api := by
  have valid := fault?_eq_none_of_resolve resolved
  simp only [fault?, Option.orElse_eq_orElse, Option.orElse_eq_or, Option.or_eq_none_iff] at valid
  obtain ⟨-, -, -, resource, api, -⟩ := valid
  exact ⟨faultOfAll?_eq_none_iff_isUsable.1 resource, faultOfAll?_eq_none_iff_isUsable.1 api⟩

end Settings

/-- **Templates of settings can be used at every depth.**  Let settings be given by what is laid
over the stock settings.  In both of their templates, wherever they stand, slots have levels from
one to six and groups have items.  And whatever headings a page has, each `oneOf` group that the
comparison comes to has an item that is chosen for the headings that are left, and the comparison
goes on with it. -/
theorem resolved_templates_usable (overlay : Toml.Value) (settings : Settings)
    (resolved : Settings.resolve overlay = .ok settings) :
    ∀ template ∈ [settings.templates.resource, settings.templates.api],
      (∀ slot, Occurs (.slot slot) template → 1 ≤ slot.level ∧ slot.level ≤ 6)
      ∧ (∀ items, Occurs (.all items) template ∨ Occurs (.oneOf items) template → items ≠ [])
      ∧ ∀ found group left, Reaches group left template found →
          ∃ item, group[choice group left]? = some item
            ∧ ∀ slots, walk slots (.oneOf group) left = walk slots item left := by
  obtain ⟨resource, api⟩ := Settings.isUsable_of_resolve resolved
  intro template isTemplate
  have usable : IsUsable template := by
    simp only [mem_cons, not_mem_nil, or_false] at isTemplate
    rcases isTemplate with rfl | rfl
    · exact resource
    · exact api
  refine ⟨usable.levels, usable.groups, fun found group left reaches => ?_⟩
  obtain ⟨item, chosen⟩ := exists_choice (usable.groups group (.inr reaches.occurs)) left
  exact ⟨item, chosen, fun slots => walk_oneOf chosen⟩

/-- A group in a group below a slot is read, and the comparison with a page comes to it. -/
theorem nested_group_usable :
    let request : Slot := ⟨2, "Request", false, false, []⟩
    let examples : Slot := ⟨2, "Examples", true, false, []⟩
    let group : List TemplateItem := [.all [.slot request], .slot examples]
    let whole : Slot := ⟨1, "*", true, false, [.all [.oneOf group]]⟩
    let overlay : Toml.Value :=
      .table [("outlines", .table [("api", .array (toTomlAll [.slot whole]))])]
    let settings : Settings := { Settings.stock with templates.api := [.slot whole] }
    let left : List HeadingTree := [.node ⟨2, "Examples", 2⟩ []]
    let heading : HeadingTree := .node ⟨1, "Item", 1⟩ left
    Settings.resolve overlay = .ok settings ∧ Reaches group left settings.templates.api [heading]
      ∧ ∃ item, group[choice group left]? = some item
        ∧ ∀ slots, walk slots (.oneOf group) left = walk slots item left := by
  intro request examples group whole overlay settings left heading
  have resolved : Settings.resolve overlay = .ok settings := rfl
  have fits : whole.fits heading = true := by decide +kernel
  have taken : heading ∈ (whole.meet [heading]).taken := by simp [Slot.meet, fits]
  have reaches : Reaches group left settings.templates.api [heading] := .under taken (.all .here)
  obtain ⟨-, -, chosen⟩ :=
    resolved_templates_usable overlay settings resolved settings.templates.api (by simp)
  exact ⟨resolved, reaches, chosen _ _ _ reaches⟩

end DocAudit
