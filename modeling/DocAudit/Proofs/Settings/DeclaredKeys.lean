import DocAudit.Proofs.Settings.Template
import DocAudit.Proofs.Toml.Overlay
import DocAudit.Settings.Resolution

/-!
# Declared keys

The settings are records with declared keys, some of them in others (`SettingsForm`,
`SettingsForm.Interprets`).  A value that can be read can be read part by part
(`SettingsForm.Readable.part`), and a record that can be read has no other keys than those declared,
unless it is a group of a template (`SettingsForm.Readable.mem_keys`).  Laying a value over the
stock settings keeps its parts, each laid over what was there (`SettingsForm.Interprets.overlay`),
so an undeclared key anywhere outside of groups makes the settings malformed
(`Settings.undeclared_keys_rejected`).
-/

namespace DocAudit

open List Toml FieldReader

/-- What a value in the settings is: a record, or a list of records. -/
inductive SettingsForm where
  | settings
  | tables
  | rules
  | rule
  | columns
  | templates
  | items
  | slot
  | group
  | links
  | processing
  deriving DecidableEq, Repr

namespace SettingsForm

/-! ## Records and their parts -/

/-- The fields of a record in order, with the forms of those that are records or lists of
records. -/
def fields : SettingsForm → List (String × Option SettingsForm)
  | settings =>
    [("default_namespace", none), ("type_name_exclusions", none),
     ("description_boilerplate_prefixes", none),
     ("tables", some tables), ("outlines", some templates), ("links", some links),
     ("processing", some processing)]
  | tables => [("headers", some rules), ("columns", some columns)]
  | rule => [("match", none), ("kind", none), ("exact", none)]
  | columns =>
    [("name", none), ("type", none), ("description", none), ("required", none),
     ("error_code", none), ("http_status", none), ("scope", none), ("scope_title", none),
     ("member", none), ("value", none), ("header", none)]
  | templates => [("resource", some items), ("api", some items)]
  | slot => [("level", none), ("title", none), ("required", none), ("allow_multiple", none),
      ("children", some items)]
  | group => [("condition", none), ("arguments", some items)]
  | links => [("warn_on_external", none), ("toc_roots", none)]
  | processing => [("max_processes", none)]
  | rules | items => []

/-- The keys that are declared for a record. -/
def keys (form : SettingsForm) : List String :=
  form.fields.map (·.1)

/-- A part of a value of some form, with its own form.  A record is a table, or an array of its
fields in order. -/
inductive Part : SettingsForm → Value → SettingsForm → Value → Prop
  | entry {form inner entries key value} (declared : (key, some inner) ∈ fields form)
      (found : entries.lookup key = some value) : Part form (.table entries) inner value
  | position {form inner values key value} {i : Nat}
      (declared : (fields form)[i]? = some (key, some inner))
      (found : values[i]? = some value) : Part form (.array values) inner value
  | rule {values value} (mem : value ∈ values) : Part rules (.array values) rule value
  | slot {values value} (mem : value ∈ values) (notGroup : ¬TemplateItem.IsGroup value) :
      Part items (.array values) slot value
  | group {values value} (mem : value ∈ values) (isGroup : TemplateItem.IsGroup value) :
      Part items (.array values) group value

/-- What is interpreted when a value of some form is read: the value itself, its parts, their parts
and so on. -/
inductive Interprets : SettingsForm → Value → SettingsForm → Value → Prop
  | itself (form value) : Interprets form value form value
  | part {form value inner within target found} (isPart : Part form value inner within)
      (deeper : Interprets inner within target found) : Interprets form value target found

/-- A value can be read as what its form says. -/
def Readable : SettingsForm → Value → Prop
  | settings, value => (Settings.ofToml? value).isSome = true
  | tables, value => (TableRules.ofToml? value).isSome = true
  | rules, value => (listOf? HeadingRule.ofToml? value).isSome = true
  | rule, value => (HeadingRule.ofToml? value).isSome = true
  | columns, value => (ColumnWords.ofToml? value).isSome = true
  | templates, value => (Templates.ofToml? value).isSome = true
  | items, value => (TemplateItem.ofToml? value).isSome = true
  | slot, value => ¬TemplateItem.IsGroup value ∧ (TemplateItem.readingOf value).item?.isSome = true
  | group, value => TemplateItem.IsGroup value ∧ (TemplateItem.readingOf value).item?.isSome = true
  | links, value => (LinkRules.ofToml? value).isSome = true
  | processing, value => (Settings.workersOfToml? value).isSome = true

variable {form inner target : SettingsForm} {value within : Value} {read : List (Option Value)}

/-! ## Reading parts -/

/-- The fields of a record that are records or lists themselves can be read. -/
def FieldsReadable (form : SettingsForm) (read : List (Option Value)) : Prop :=
  ∀ field ∈ form.fields.zip read, ∀ inner ∈ field.1.2, ∀ value ∈ field.2, Readable inner value

/-- Nothing is to be read in a record whose fields are all plain. -/
lemma fieldsReadable_of_plain (plain : ∀ field ∈ form.fields, field.2 = none)
    (read : List (Option Value)) :
    form.FieldsReadable read := by
  intro field mem inner isInner
  rw [plain _ (of_mem_zip mem).1] at isInner
  cases isInner

lemma fields?_of_readFields? {α : Type} {reader : FieldReader Value α} {names : List String}
    (isRead : (value.readFields? reader names).isSome = true) :
    ∃ read, value.fields? names = some read ∧ ∃ result, reader.run' read = some result := by
  obtain ⟨result, isRead⟩ := Option.isSome_iff_exists.1 isRead
  obtain ⟨read, areFields, isRead⟩ := Option.bind_eq_some_iff.1 isRead
  exact ⟨read, areFields, result, isRead⟩

/-- A field that is read as a record or list has a value that can be read so. -/
lemma readable_of_read {α : Type} {read? : Value → Option α} {value? : Option Value} {result : α}
    (isForm : ∀ value, (read? value).isSome = true → Readable form value)
    (isRead : ∀ value ∈ value?, read? value = some result) :
    ∀ value ∈ value?, Readable form value :=
  fun value mem => isForm value (Option.isSome_of_eq_some (isRead value mem))

lemma settings_fields (readable : Readable settings value) :
    ∃ read, value.fields? settings.keys = some read ∧ settings.FieldsReadable read := by
  obtain ⟨read, areFields, result, isRead⟩ := fields?_of_readFields? readable
  refine ⟨read, areFields, ?_⟩
  rw [Settings.reader] at isRead
  obtain ⟨space, _, _, rfl, -, isRead⟩ := exists_of_run'_field isRead
  obtain ⟨exclusions, _, _, rfl, -, isRead⟩ := exists_of_run'_field isRead
  obtain ⟨boilerplate, _, _, rfl, -, isRead⟩ := exists_of_run'_field isRead
  obtain ⟨tables?, _, _, rfl, areTables, isRead⟩ := exists_of_run'_field isRead
  obtain ⟨templates?, _, _, rfl, areTemplates, isRead⟩ := exists_of_run'_field isRead
  obtain ⟨links?, _, _, rfl, areLinks, isRead⟩ := exists_of_run'_field isRead
  obtain ⟨processing?, _, _, rfl, isProcessing, -⟩ := exists_of_run'_field isRead
  have tables : ∀ value ∈ tables?, Readable .tables value :=
    readable_of_read (fun _ => id) areTables
  have templates : ∀ value ∈ templates?, Readable .templates value :=
    readable_of_read (fun _ => id) areTemplates
  have links : ∀ value ∈ links?, Readable .links value := readable_of_read (fun _ => id) areLinks
  have processing : ∀ value ∈ processing?, Readable .processing value :=
    readable_of_read (fun _ => id) isProcessing
  simpa [FieldsReadable, fields] using ⟨tables, templates, links, processing⟩

lemma tables_fields (readable : Readable tables value) :
    ∃ read, value.fields? tables.keys = some read ∧ tables.FieldsReadable read := by
  obtain ⟨read, areFields, result, isRead⟩ := fields?_of_readFields? readable
  refine ⟨read, areFields, ?_⟩
  obtain ⟨rules?, _, _, rfl, areRules, isRead⟩ := exists_of_run'_field isRead
  obtain ⟨columns?, _, _, rfl, areColumns, -⟩ := exists_of_run'_field isRead
  have rules : ∀ value ∈ rules?, Readable .rules value := readable_of_read (fun _ => id) areRules
  have columns : ∀ value ∈ columns?, Readable .columns value :=
    readable_of_read (fun _ => id) areColumns
  simpa [FieldsReadable, fields] using ⟨rules, columns⟩

lemma templates_fields (readable : Readable templates value) :
    ∃ read, value.fields? templates.keys = some read ∧ templates.FieldsReadable read := by
  obtain ⟨read, areFields, result, isRead⟩ := fields?_of_readFields? readable
  refine ⟨read, areFields, ?_⟩
  obtain ⟨resource?, _, _, rfl, isResource, isRead⟩ := exists_of_run'_field isRead
  obtain ⟨api?, _, _, rfl, isApi, -⟩ := exists_of_run'_field isRead
  have resource : ∀ value ∈ resource?, Readable .items value :=
    readable_of_read (fun _ => id) isResource
  have api : ∀ value ∈ api?, Readable .items value := readable_of_read (fun _ => id) isApi
  simpa [FieldsReadable, fields] using ⟨resource, api⟩

lemma slot_fields (readable : Readable slot value) :
    ∃ read, value.fields? slot.keys = some read ∧ slot.FieldsReadable read := by
  obtain ⟨notGroup, isRead⟩ := readable
  obtain ⟨item, isRead⟩ := Option.isSome_iff_exists.1 isRead
  rw [TemplateItem.item?_of_not_isGroup notGroup, Option.bind_eq_some_iff] at isRead
  obtain ⟨read, areFields, isRead⟩ := isRead
  refine ⟨read, areFields, ?_⟩
  rw [TemplateItem.slotReader] at isRead
  obtain ⟨level, _, _, split, -, isRead⟩ := exists_of_run'_requiredField isRead
  obtain ⟨title, _, _, rfl, -, isRead⟩ := exists_of_run'_requiredField isRead
  obtain ⟨required, _, _, rfl, -, isRead⟩ := exists_of_run'_field isRead
  obtain ⟨repeatable, _, _, rfl, -, isRead⟩ := exists_of_run'_field isRead
  obtain ⟨children?, _, _, rfl, areChildren, -⟩ := exists_of_run'_field isRead
  -- the readings are those of the values of the fields
  simp only [map_eq_cons_iff] at split
  obtain ⟨level, _, rfl, -, title, _, rfl, -, required, _, rfl, -, repeatable, _, rfl, -, children,
    _, rfl, rfl, -⟩ :=
    split
  have isList : ∀ value ∈ children, Readable items value := by
    intro value mem
    have mapped : TemplateItem.readingOf value ∈ children.map TemplateItem.readingOf :=
      Option.mem_map_of_mem _ mem
    exact Option.isSome_of_eq_some (areChildren _ mapped)
  simpa [FieldsReadable, fields] using isList

/-- The fields of a record other than a group, once it is read. -/
lemma exists_fields (isRecord : form ∉ [rules, items, group]) (readable : Readable form value) :
    ∃ read, value.fields? form.keys = some read ∧ form.FieldsReadable read := by
  cases form with
  | settings => exact settings_fields readable
  | tables => exact tables_fields readable
  | templates => exact templates_fields readable
  | slot => exact slot_fields readable
  | rules | items | group => simp at isRecord
  | rule | columns | links | processing =>
      obtain ⟨read, areFields, -⟩ := fields?_of_readFields? readable
      exact ⟨read, areFields, fieldsReadable_of_plain (by decide) read⟩

/-- The value of a field that is a record or list can be read. -/
lemma FieldsReadable.of_mem (h : form.FieldsReadable read) {key : String}
    (declared : (key, some inner) ∈ form.fields) {entries : List (String × Value)}
    (areFields : (Value.table entries).fields? form.keys = some read)
    (found : entries.lookup key = some value) : Readable inner value := by
  obtain ⟨-, rfl⟩ := Record.named?_eq_some_iff.1 areFields
  refine h ((key, some inner), entries.lookup key) ?_ inner rfl value found
  rw [keys, map_map, ← map_prod_left_eq_zip]
  exact mem_map.2 ⟨_, declared, rfl⟩

lemma FieldsReadable.of_getElem? (h : form.FieldsReadable read) {key : String} {i : Nat}
    (declared : form.fields[i]? = some (key, some inner)) {values : List Value}
    (areFields : (Value.array values).fields? form.keys = some read)
    (found : values[i]? = some value) :
    Readable inner value := by
  obtain ⟨-, rfl⟩ := Record.positional?_eq_some_iff.1 areFields
  obtain ⟨short, -⟩ := List.getElem?_eq_some_iff.1 found
  have isField : (values.map some ++ replicate (form.keys.length - values.length) none)[i]?
      = some (some value) := by
    rw [getElem?_append_left (by simpa using short), getElem?_map, found, Option.map_some]
  refine h ((key, some inner), some value) ?_ inner rfl value rfl
  exact mem_of_getElem? (getElem?_zip_eq_some.2 ⟨declared, isField⟩)

/-- Only records have fields. -/
lemma isRecord_of_mem {key : String} (declared : (key, some inner) ∈ form.fields)
    (notGroup : form ≠ group) :
    form ∉ [rules, items, group] := by
  cases form with
  | rules | items => cases declared
  | group => exact absurd rfl notGroup
  | _ => decide

/-- Of the parts of a group, the arguments are read as a list. -/
lemma arguments_readable {entries : List (String × Value)}
    (readable : Readable group (.table entries)) {key : String}
    (declared : (key, some inner) ∈ group.fields) (found : entries.lookup key = some value) :
    Readable inner value := by
  obtain ⟨isGroup, isRead⟩ := readable
  obtain ⟨item, isRead⟩ := Option.isSome_iff_exists.1 isRead
  rw [TemplateItem.item?_of_isGroup isGroup, TemplateItem.groupOf?_entriesOf] at isRead
  simp only [Option.bind_eq_some_iff] at isRead
  obtain ⟨-, -, -, -, arguments, isArguments, list, isList, -⟩ := isRead
  simp only [fields, mem_cons, Prod.mk.injEq, reduceCtorEq, and_false, Option.some_inj, not_mem_nil,
    or_false, false_or] at declared
  obtain ⟨rfl, rfl⟩ := declared
  rw [isArguments] at found
  cases found
  exact Option.isSome_of_eq_some isList

/-- **What is read is read part by part.** -/
theorem Readable.part (readable : Readable form value) (isPart : Part form value inner within) :
    Readable inner within := by
  cases isPart with
  | entry declared found =>
      by_cases isGroup : form = group
      · subst isGroup
        exact arguments_readable readable declared found
      · obtain ⟨read, areFields, readable⟩ :=
          exists_fields (isRecord_of_mem declared isGroup) readable
        exact readable.of_mem declared areFields found
  | position declared found =>
      by_cases isGroup : form = group
      · subst isGroup
        exact absurd readable.1 id
      · have isField := mem_of_getElem? declared
        obtain ⟨read, areFields, readable⟩ :=
          exists_fields (isRecord_of_mem isField isGroup) readable
        exact readable.of_getElem? declared areFields found
  | rule mem => exact isSome_of_mem_mapM readable mem
  | slot mem notGroup =>
      rw [Readable, TemplateItem.ofToml?_array] at readable
      exact ⟨notGroup, isSome_of_mem_mapM readable mem⟩
  | group mem isGroup =>
      rw [Readable, TemplateItem.ofToml?_array] at readable
      exact ⟨isGroup, isSome_of_mem_mapM readable mem⟩

lemma Readable.of_interprets (readable : Readable form value)
    (interprets : Interprets form value target within) :
    Readable target within := by
  induction interprets with
  | itself => exact readable
  | part isPart _ ih => exact ih (readable.part isPart)

/-! ## Declared keys -/

/-- A table that can be read as something else than a group has no other keys than those
declared. -/
lemma Readable.mem_keys {entries : List (String × Value)}
    (readable : Readable form (.table entries))
    (notGroup : form ≠ group) : ∀ key ∈ entries.map (·.1), key ∈ form.keys := by
  have ofRecord (isRecord : form ∉ [rules, items, group]) : ∀ key ∈ entries.map (·.1),
      key ∈ form.keys := by
    obtain ⟨read, areFields, -⟩ := exists_fields isRecord readable
    exact (Record.named?_eq_some_iff.1 areFields).1
  cases form with
  | rules => cases readable
  | items =>
      -- no table is a list
      obtain ⟨list, isRead⟩ := Option.isSome_iff_exists.1 readable
      obtain ⟨values, isArray⟩ := TemplateItem.exists_array_of_ofToml? isRead
      cases isArray
  | group => exact absurd rfl notGroup
  | _ => exact ofRecord (by decide)

/-! ## Parts of what is laid over the stock settings -/

lemma Part.hasDistinctKeys (isPart : Part form value inner within)
    (distinct : value.HasDistinctKeys) :
    within.HasDistinctKeys := by
  cases isPart with
  | entry declared found =>
      cases distinct with
      | table _ values => exact values _ (mem_of_lookup found)
  | position declared found =>
      cases distinct with
      | array each => exact each _ (mem_of_getElem? found)
  | rule mem | slot mem _ | group mem _ =>
      cases distinct with
      | array each => exact each _ mem

/-- A part of a value stays one when the value is laid over another one: it is laid over what was
there. -/
lemma Part.overlay (isPart : Part form value inner within) (distinct : value.HasDistinctKeys)
    (lower : Value) :
    ∃ below : Value, Part form (lower.overlay value) inner (below.overlay within) := by
  -- what is laid over a text is itself
  have alone (value : Value) : (Value.string "").overlay value = value :=
    Value.overlay_over_not_table rfl
  cases isPart with
  | @entry _ _ entries key _ declared found =>
      cases isTable : lower.isTable with
      | false =>
          rw [Value.overlay_over_not_table isTable]
          exact ⟨.string "", .entry declared (by rw [alone, found])⟩
      | true =>
          cases lower with
          | table base =>
              cases distinct with
              | table distinct _ =>
                  rw [Value.overlay_table]
                  refine ⟨(base.lookup key).getD (.string ""), .entry declared ?_⟩
                  rw [Value.lookup_overlayEntries distinct, found]
                  cases base.lookup key with
                  | none => exact congrArg some (alone _).symm
                  | some old => rfl
          | _ => cases isTable
  | position declared found =>
      rw [Value.overlay_of_not_table lower rfl]
      exact ⟨.string "", .position declared (by rw [alone, found])⟩
  | rule mem =>
      rw [Value.overlay_of_not_table lower rfl]
      exact ⟨.string "", .rule (by rwa [alone])⟩
  | slot mem notGroup =>
      rw [Value.overlay_of_not_table lower rfl]
      exact ⟨.string "", .slot (by rwa [alone]) (by rwa [alone])⟩
  | group mem isGroup =>
      rw [Value.overlay_of_not_table lower rfl]
      exact ⟨.string "", .group (by rwa [alone]) (by rwa [alone])⟩

lemma Interprets.overlay (interprets : Interprets form value target within)
    (distinct : value.HasDistinctKeys) (lower : Value) :
    ∃ below : Value, Interprets form (lower.overlay value) target (below.overlay within) := by
  induction interprets generalizing lower with
  | itself => exact ⟨lower, .itself ..⟩
  | part isPart _ ih =>
      obtain ⟨around, isPart'⟩ := isPart.overlay distinct lower
      obtain ⟨below, deeper⟩ := ih (isPart.hasDistinctKeys distinct) around
      exact ⟨below, .part isPart' deeper⟩

lemma Interprets.hasDistinctKeys (interprets : Interprets form value target within)
    (distinct : value.HasDistinctKeys) : within.HasDistinctKeys := by
  induction interprets with
  | itself => exact distinct
  | part isPart _ ih => exact ih (isPart.hasDistinctKeys distinct)

end SettingsForm

namespace Settings

open SettingsForm

/-- Settings that a value gives are read from it, laid over the stock settings. -/
lemma readable_of_resolve {overlay : Value} (notMalformed : resolve overlay ≠ .error .malformed) :
    Readable .settings (stock.toToml.overlay overlay) := by
  rw [Readable, Option.isSome_iff_ne_none]
  intro unreadable
  rw [resolve, unreadable] at notMalformed
  exact notMalformed rfl

/-- **Undeclared keys are rejected at every depth,** except in groups.  Whatever a value is laid
over, if a table in it, other than a group, is interpreted as a record and has a key that is not
declared for this record, then the value gives no settings.  Of a group no other keys than the
declared ones are looked at. -/
theorem undeclared_keys_rejected (overlay : Value) (distinct : overlay.HasDistinctKeys) :
    (∀ form entries, Interprets .settings overlay form (.table entries) → form ≠ .group →
      (∃ key ∈ entries.map (·.1), key ∉ form.keys) → resolve overlay = .error .malformed)
    ∧ ∀ entries, TemplateItem.IsGroup (.table entries) →
        (TemplateItem.readingOf (.table (entries.filter (·.1 ∈ SettingsForm.group.keys)))).item?
          = (TemplateItem.readingOf (.table entries)).item? := by
  refine ⟨?_, fun entries => TemplateItem.item?_filter_of_isGroup⟩
  · rintro form entries interprets notGroup ⟨key, mem, undeclared⟩
    by_contra notMalformed
    obtain ⟨below, isInside⟩ := interprets.overlay distinct stock.toToml
    have readable := (readable_of_resolve notMalformed).of_interprets isInside
    cases interprets.hasDistinctKeys distinct with
    | table distinct _ =>
        obtain ⟨joined, same, kept⟩ := Value.exists_overlay_table distinct below
        rw [same] at readable
        exact undeclared (readable.mem_keys notGroup key (kept key mem))

/-- A misspelt key of a slot in a group is rejected. -/
theorem misspelt_key_rejected :
    let slot : List (String × Value) := [("level", .integer 1), ("titel", .string "*")]
    let group : Value := .table [("condition", .string "or"), ("arguments", .array [.table slot])]
    let overlay : Value := .table [("outlines", .table [("resource", .array [group])])]
    overlay.HasDistinctKeys ∧ Interprets .settings overlay .slot (.table slot)
      ∧ resolve overlay = .error .malformed := by
  intro slot group overlay
  have distinct : overlay.HasDistinctKeys := by
    simp [overlay, group, slot, Value.hasDistinctKeys_table, Value.hasDistinctKeys_array,
      Value.HasDistinctKeys.string, Value.HasDistinctKeys.integer]
  have interprets : Interprets .settings overlay .slot (.table slot) := by
    have isGroup : TemplateItem.IsGroup group := by
      decide
    have notGroup : ¬TemplateItem.IsGroup (.table slot) := by
      decide
    refine .part (.entry (show ("outlines", some .templates) ∈ fields .settings by decide) rfl) ?_
    refine .part (.entry (show ("resource", some .items) ∈ fields .templates by decide) rfl) ?_
    refine .part (.group mem_cons_self isGroup) ?_
    refine .part (.entry (show ("arguments", some .items) ∈ fields .group by decide) rfl) ?_
    exact .part (.slot mem_cons_self notGroup) (.itself ..)
  exact ⟨distinct, interprets,
    (undeclared_keys_rejected overlay distinct).1 .slot slot interprets (by decide)
      ⟨"titel", by decide, by decide⟩⟩

/-- A misspelt key of a group is accepted. -/
theorem misspelt_group_key_accepted :
    let slot : Value := .table [("level", .integer 1), ("title", .string "*")]
    let group : List (String × Value) :=
      [("condition", .string "or"), ("arguments", .array [slot]), ("titel", .string "x")]
    let overlay : Value := .table [("outlines", .table [("resource", .array [.table group])])]
    overlay.HasDistinctKeys ∧ Interprets .settings overlay .group (.table group)
      ∧ "titel" ∈ group.map (·.1) ∧ "titel" ∉ SettingsForm.group.keys
      ∧ ∃ settings, resolve overlay = .ok settings := by
  intro slot group overlay
  have distinct : overlay.HasDistinctKeys := by
    simp [overlay, group, slot, Value.hasDistinctKeys_table, Value.hasDistinctKeys_array,
      Value.HasDistinctKeys.string, Value.HasDistinctKeys.integer]
  have interprets : Interprets .settings overlay .group (.table group) := by
    refine .part (.entry (show ("outlines", some .templates) ∈ fields .settings by decide) rfl) ?_
    refine .part (.entry (show ("resource", some .items) ∈ fields .templates by decide) rfl) ?_
    exact .part (.group mem_cons_self (by decide)) (.itself ..)
  have accepted : (resolve overlay).toOption.isSome = true := by
    decide +kernel
  refine ⟨distinct, interprets, by decide, by decide, ?_⟩
  cases resolved : resolve overlay with
  | ok settings => exact ⟨settings, rfl⟩
  | error fault =>
      rw [resolved] at accepted
      cases accepted

end Settings

end DocAudit
