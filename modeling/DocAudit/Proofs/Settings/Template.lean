import DocAudit.Proofs.Record
import DocAudit.Settings.Template

/-!
# Reading templates

A table with the keys of a group is read as a group, and only by these keys
(`TemplateItem.item?_of_isGroup`); any other value is read as a slot
(`TemplateItem.item?_of_not_isGroup`).  Though every value is read in two ways at once, nothing but
the item or the list of items comes of it (`TemplateItem.ofToml?_array`).
-/

namespace DocAudit.TemplateItem

open List Toml

variable {entries : List (String × Value)} {value : Value}

/-- Whether a value is a table with the keys of a group. -/
def IsGroup : Value → Prop
  | .table entries => "condition" ∈ entries.map (·.1) ∧ "arguments" ∈ entries.map (·.1)
  | _ => False

instance : DecidablePred IsGroup
  | .table _ => inferInstanceAs (Decidable (_ ∧ _))
  | .string _ | .integer _ | .float _ | .boolean _ | .datetime _ | .array _ =>
    inferInstanceAs (Decidable False)

/-! ## Both ways of reading -/

lemma value_readingOf (value : Value) : (readingOf value).value = value := by
  cases value <;> rw [readingOf]
  all_goals exact nofun

lemma readingsOf_eq_map (values : List Value) : readingsOf values = values.map readingOf := by
  induction values with
  | nil => rw [readingsOf, map_nil]
  | cons value rest ih => rw [readingsOf, map_cons, ih]

lemma entriesOf_eq_map (entries : List (String × Value)) :
    entriesOf entries = entries.map (Prod.map id readingOf) := by
  induction entries with
  | nil => rw [entriesOf, map_nil]
  | cons entry rest ih =>
      rw [entriesOf, map_cons, ih]
      rfl

/-- A template is read item by item. -/
lemma ofToml?_array (values : List Value) :
    ofToml? (.array values) = values.mapM fun value => (readingOf value).item? := by
  rw [ofToml?, readingOf, readingsOf_eq_map, mapM_map]
  rfl

/-- Only an array is read as a template. -/
lemma exists_array_of_ofToml? {items : List TemplateItem} (isRead : ofToml? value = some items) :
    ∃ values, value = .array values := by
  cases value with
  | array values => exact ⟨values, rfl⟩
  | _ => simp [ofToml?, readingOf] at isRead

/-! ## Groups -/

lemma groupOf?_entriesOf (entries : List (String × Value)) : groupOf? (entriesOf entries)
    = (entries.lookup "condition").bind fun condition => condition.text?.bind fun condition =>
        (entries.lookup "arguments").bind fun arguments =>
          (ofToml? arguments).bind (group? condition) := by
  rw [groupOf?, entriesOf_eq_map, lookup_map_snd, lookup_map_snd]
  cases entries.lookup "condition" <;> cases entries.lookup "arguments" <;>
    simp [value_readingOf, ofToml?]

lemma item?_table (entries : List (String × Value)) : (readingOf (.table entries)).item?
    = (groupOf? (entriesOf entries) <|>
        ((Record.named? slotFields entries).bind fun fields =>
          slotReader.run' (fields.map (·.map readingOf)))) := by
  rw [readingOf, entriesOf_eq_map, Record.named?_map]
  cases Record.named? slotFields entries <;> rfl

/-- A table with the keys of a group has no other meaning. -/
lemma item?_of_isGroup (isGroup : IsGroup (.table entries)) :
    (readingOf (.table entries)).item? = groupOf? (entriesOf entries) := by
  have noSlot : Record.named? slotFields entries = none := by
    rw [Option.eq_none_iff_forall_ne_some]
    intro fields isRecord
    exact absurd ((Record.named?_eq_some_iff.1 isRecord).1 _ isGroup.1) (by decide)
  rw [item?_table, noSlot]
  cases groupOf? (entriesOf entries) <;> rfl

/-- **A group is read as if it had no other keys.** -/
theorem item?_filter_of_isGroup (isGroup : IsGroup (.table entries)) :
    (readingOf (.table (entries.filter (·.1 ∈ ["condition", "arguments"])))).item?
      = (readingOf (.table entries)).item? := by
  have stays {key : String} (isKey : key ∈ ["condition", "arguments"]) :
      (entries.filter (·.1 ∈ ["condition", "arguments"])).lookup key = entries.lookup key :=
    lookup_filter_fst (fun key => decide (key ∈ ["condition", "arguments"]))
      (decide_eq_true isKey) entries
  have isGroupToo : IsGroup (.table (entries.filter (·.1 ∈ ["condition", "arguments"]))) := by
    rw [IsGroup, ← isSome_lookup_iff, ← isSome_lookup_iff, stays (by decide), stays (by decide),
      isSome_lookup_iff, isSome_lookup_iff]
    exact isGroup
  rw [item?_of_isGroup isGroup, item?_of_isGroup isGroupToo, groupOf?_entriesOf, groupOf?_entriesOf,
    stays (by decide), stays (by decide)]

/-! ## Slots -/

lemma groupOf?_of_not_isGroup (notGroup : ¬IsGroup (.table entries)) :
    groupOf? (entriesOf entries) = none := by
  rw [groupOf?_entriesOf]
  rcases not_and_or.1 notGroup with absent | absent <;> simp [lookup_eq_none_iff_not_mem.2 absent]

/-- Everything but a group is read as a slot. -/
lemma item?_of_not_isGroup (notGroup : ¬IsGroup value) : (readingOf value).item?
    = (value.fields? slotFields).bind fun fields =>
      slotReader.run' (fields.map (·.map readingOf)) := by
  cases value with
  | table entries =>
      rw [item?_table, groupOf?_of_not_isGroup notGroup]
      rfl
  | array values =>
      rw [readingOf, readingsOf_eq_map, Record.positional?_map, Value.fields?]
      cases Record.positional? slotFields.length values <;> rfl
  | _ =>
      rw [readingOf]
      · rfl
      all_goals exact nofun

end DocAudit.TemplateItem
