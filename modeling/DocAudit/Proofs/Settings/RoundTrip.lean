import DocAudit.Proofs.Settings.Template
import DocAudit.Proofs.Settings.Validity
import DocAudit.Proofs.Toml.Overlay
import DocAudit.Settings.Resolution

/-!
# Settings survive writing

What is written of settings is read as it was.  A template is read item by item, so this is an
induction on its items, where a fault-free slot has a level that can be written
(`TemplateItem.ofToml?_toTomlAll`).  A record is written with all of its fields, so nothing of
another record that it is laid over is left, except in the fields that are missing, and the stock
settings lack these as well (`Settings.fields?_overlay_stock`).  Hence settings without a fault,
laid over the stock settings, give themselves (`Settings.resolve_toToml`).
-/

namespace DocAudit

open List Toml FieldReader

/-! ## Plain values -/

lemma ColumnWords.texts?_textsToToml (texts : List String) :
    (textsToToml texts).texts? = some texts := by
  change (texts.map Value.string).mapM Value.text? = some texts
  rw [mapM_eq_some_iff, forall₂_map_left_iff, forall₂_same]
  exact fun text _ => rfl

lemma ColumnWords.isTable_textsToToml (texts : List String) : (textsToToml texts).isTable = false :=
  rfl

lemma natBelow?_integer {bound count : Nat} (below : count < bound) :
    (Value.integer count).natBelow? bound = some count := by
  simp [Value.natBelow?, below]

lemma TableKind.ofToml?_name (kind : TableKind) :
    TableKind.ofToml? (.string kind.name) = some kind :=
  TableKind.ofName?_name kind

/-! ## Templates -/

namespace TemplateItem

variable {page : String}

lemma level_lt_of_valid {slot : Slot} (valid : slotFault? page slot = none) :
    slot.level < levelBound :=
  Nat.lt_of_le_of_lt (of_slotFault?_eq_none valid).1.2 (by decide)

/-- The keys of a slot are those of its fields in order. -/
lemma item?_slotToToml {level : Nat} {title : String} {required repeatable : Bool}
    {children : List TemplateItem} (inRange : level < levelBound)
    (isRead : ofToml? (.array (toTomlAll children)) = some children) :
    (readingOf (slotToToml ⟨level, title, required, repeatable, children⟩)).item?
      = some (.slot ⟨level, title, required, repeatable, children⟩) := by
  have notGroup : ¬IsGroup (slotToToml ⟨level, title, required, repeatable, children⟩) := by
    rw [slotToToml]
    exact fun isGroup => absurd isGroup.1 (by simp)
  rw [item?_of_not_isGroup notGroup, slotToToml]
  have areFields : (Value.table [("level", .integer level), ("title", .string title),
      ("required", .boolean required), ("allow_multiple", .boolean repeatable),
      ("children", .array (toTomlAll children))]).fields? slotFields
        = some [some (.integer level), some (.string title), some (.boolean required),
          some (.boolean repeatable),
            some (.array (toTomlAll children))] :=
    Value.fields?_complete (by simp)
  have isList : (readingOf (.array (toTomlAll children))).items? = some children := isRead
  rw [areFields, Option.bind_some, slotReader]
  simp only [map_cons, map_nil, Option.map_some, run'_requiredField_some, run'_field_some,
    value_readingOf, natBelow?_integer inRange, Value.text?, Value.bool?, isList, Option.bind_some]
  rfl

/-- A group is written with its keys. -/
lemma item?_group {name : String} {items : List TemplateItem} {item : TemplateItem}
    (isGroup : group? name items = some item)
    (isRead : ofToml? (.array (toTomlAll items)) = some items) :
    (readingOf (.table [("condition", .string name),
      ("arguments", .array (toTomlAll items))])).item? = some item := by
  rw [item?_of_isGroup (by simp [IsGroup]), groupOf?_entriesOf]
  simp [lookup_cons, Value.text?, isRead, isGroup]

mutual

/-- An item is read as it was written. -/
lemma item?_toToml :
    ∀ item : TemplateItem, item.fault? page = none → (readingOf item.toToml).item? = some item
  | .slot ⟨level, title, required, repeatable, children⟩, valid => by
      rw [fault?] at valid
      rw [toToml]
      exact item?_slotToToml (level_lt_of_valid valid)
        (ofToml?_toTomlAll children (of_slotFault?_eq_none valid).2)
  | .all items, valid => by
      rw [fault?] at valid
      rw [toToml]
      exact item?_group rfl (ofToml?_toTomlAll items (of_groupFault?_eq_none valid).2)
  | .oneOf items, valid => by
      rw [fault?] at valid
      rw [toToml]
      exact item?_group rfl (ofToml?_toTomlAll items (of_groupFault?_eq_none valid).2)

lemma ofToml?_toTomlAll : ∀ items : List TemplateItem, faultOfAll? page items = none →
    ofToml? (.array (toTomlAll items)) = some items
  | [], _ => by
      rw [toTomlAll]
      rfl
  | item :: rest, valid => by
      rw [faultOfAll?_eq_none_iff, forall_mem_cons, ← faultOfAll?_eq_none_iff] at valid
      have areRead := ofToml?_toTomlAll rest valid.2
      rw [ofToml?_array] at areRead
      rw [toTomlAll, ofToml?_array, mapM_cons, item?_toToml item valid.1, areRead]
      rfl

end

end TemplateItem

/-! ## Records -/

variable {value : Value}

/-- A record is read from its fields. -/
lemma readFields?_of_fields? {α : Type} {reader : FieldReader Value α} {names : List String}
    {read : List (Option Value)} (areFields : value.fields? names = some read) :
    value.readFields? reader names = reader.run' read := by
  rw [Value.readFields?, areFields]
  rfl

/-- A field that may be missing is read as it was written, or as missing. -/
lemma run'_optionalField {α β : Type} {read? : Value → Option α} {write : α → Value}
    {next : Option α → FieldReader Value β} {rest : List (Option Value)} {value? : Option α}
    (isRead : ∀ value, read? (write value) = some value) :
    (optionalField read? >>= next).run' (value?.map write :: rest) = (next value?).run' rest := by
  cases value? with
  | none => rfl
  | some value =>
      rw [optionalField, Option.map_some, run'_field_some, isRead, Option.map_some,
        Option.bind_some]

lemma HeadingRule.ofToml?_toToml (rule : HeadingRule) : ofToml? rule.toToml = some rule := by
  have areFields : rule.toToml.fields? fieldNames
      = some [some (.string rule.pattern), some (.string rule.kind.name),
        some (.boolean rule.exact)] :=
    Value.fields?_complete (by simp)
  rw [ofToml?, readFields?_of_fields? areFields, reader]
  simp only [run'_requiredField_some, run'_field_some, TableKind.ofToml?_name, Value.text?,
    Value.bool?, Option.bind_some]
  rfl

lemma listOf?_map {α : Type} {read? : Value → Option α} {write : α → Value}
    (isRead : ∀ item, read? (write item) = some item) (items : List α) :
    listOf? read? (.array (items.map write)) = some items := by
  change (items.map write).mapM read? = some items
  rw [mapM_eq_some_iff, forall₂_map_left_iff, forall₂_same]
  exact fun item _ => isRead item

/-- Whatever headers of columns are laid over others, they are read as they were written. -/
lemma ColumnWords.ofToml?_overlay (columns others : ColumnWords) :
    ofToml? (others.toToml.overlay columns.toToml) = some columns := by
  have areFields : (others.toToml.overlay columns.toToml).fields? fieldNames
      = some [some (textsToToml columns.name), some (textsToToml columns.type),
          some (textsToToml columns.description), some (textsToToml columns.required),
          some (textsToToml columns.errorCode), some (textsToToml columns.httpStatus),
          some (textsToToml columns.scope), some (textsToToml columns.scopeTitle),
          some (textsToToml columns.member), some (textsToToml columns.value),
          some (textsToToml columns.header)] := by
    refine (Value.fields?_overlay_complete (by simp) (by simp)).trans ?_
    simp only [map_cons, map_nil, Value.overlay?_of_not_table _ (isTable_textsToToml _)]
  rw [ofToml?, readFields?_of_fields? areFields, reader]
  simp only [run'_field_some, texts?_textsToToml, Option.bind_some]
  rfl

lemma TableRules.ofToml?_overlay (rules others : TableRules) :
    ofToml? (others.toToml.overlay rules.toToml) = some rules := by
  have areFields : (others.toToml.overlay rules.toToml).fields? ["headers", "columns"]
      = some [some (.array (rules.headings.map (·.toToml))),
          some (others.columns.toToml.overlay rules.columns.toToml)] := by
    refine (Value.fields?_overlay_complete (by simp) (by simp)).trans ?_
    simp only [map_cons, map_nil,
      Value.overlay?_of_not_table _ (show (Value.array _).isTable = false from rfl),
      lookup_cons_of_ne (show "columns" ≠ "headers" by decide), lookup_cons_self]
    rfl
  rw [ofToml?, readFields?_of_fields? areFields]
  simp only [run'_field_some, listOf?_map HeadingRule.ofToml?_toToml, ColumnWords.ofToml?_overlay,
    Option.bind_some]
  rfl

lemma LinkRules.ofToml?_overlay (rules others : LinkRules) :
    ofToml? (others.toToml.overlay rules.toToml) = some rules := by
  have areFields : (others.toToml.overlay rules.toToml).fields? ["warn_on_external", "toc_roots"]
      = some [some (.boolean rules.warnOnExternal),
        some (ColumnWords.textsToToml rules.entryPages)] := by
    refine (Value.fields?_overlay_complete (by simp) (by simp)).trans ?_
    simp only [map_cons, map_nil, Value.overlay?_of_not_table _ (ColumnWords.isTable_textsToToml _),
      Value.overlay?_of_not_table _ (show (Value.boolean _).isTable = false from rfl)]
  rw [ofToml?, readFields?_of_fields? areFields]
  simp only [run'_field_some, ColumnWords.texts?_textsToToml, Value.bool?, Option.bind_some]
  rfl

lemma Templates.ofToml?_overlay {templates : Templates} (others : Templates)
    (resource : TemplateItem.ofToml? (.array (TemplateItem.toTomlAll templates.resource))
      = some templates.resource)
    (api : TemplateItem.ofToml? (.array (TemplateItem.toTomlAll templates.api))
      = some templates.api) :
    ofToml? (others.toToml.overlay templates.toToml) = some templates := by
  have areFields : (others.toToml.overlay templates.toToml).fields? ["resource", "api"]
      = some [some (.array (TemplateItem.toTomlAll templates.resource)),
          some (.array (TemplateItem.toTomlAll templates.api))] := by
    refine (Value.fields?_overlay_complete (by simp) (by simp)).trans ?_
    simp only [map_cons, map_nil,
      Value.overlay?_of_not_table _ (show (Value.array _).isTable = false from rfl)]
  rw [ofToml?, readFields?_of_fields? areFields]
  simp only [run'_field_some, resource, api, Option.bind_some]
  rfl

namespace Settings

lemma workersOfToml?_overlay {workers : Option Nat}
    (fits : ∀ count ∈ workers, count < workerBound) :
    workersOfToml? ((Value.table []).overlay
        (.table (optionalEntry "max_processes" (workers.map fun count => .integer count))))
          = some workers := by
  cases workers with
  | none => rfl
  | some count =>
      have areFields : ((Value.table []).overlay
          (.table [("max_processes", .integer count)])).fields? ["max_processes"]
          = some [some (.integer count)] :=
        Value.fields?_overlay_complete (by simp) (by simp)
      change workersOfToml? ((Value.table []).overlay (.table [("max_processes", .integer count)]))
        = some (some count)
      rw [workersOfToml?, readFields?_of_fields? areFields]
      rw [optionalField, run'_last_field, natBelow?_integer (fits count rfl), Option.map_some]

/-- The entries of settings other than that of the default namespace. -/
def entries (settings : Settings) : List (String × Value) :=
  [("type_name_exclusions", ColumnWords.textsToToml settings.naming.exclusions),
   ("description_boilerplate_prefixes", ColumnWords.textsToToml settings.boilerplate),
   ("tables", settings.tables.toToml), ("outlines", settings.templates.toToml),
     ("links", settings.links.toToml),
   ("processing",
     .table (optionalEntry "max_processes" (settings.maxWorkers.map fun count => .integer count)))]

lemma fieldNames_eq (settings : Settings) :
    fieldNames = "default_namespace" :: settings.entries.map (·.1) :=
  rfl

lemma nodup_fieldNames : fieldNames.Nodup := by
  decide

/-- The stock settings have no default namespace. -/
lemma toToml_stock : stock.toToml = .table stock.entries :=
  rfl

/-- Settings with their tables laid over those of the stock settings. -/
def laidOverStock (settings : Settings) : List (Option Value) :=
  [some (ColumnWords.textsToToml settings.naming.exclusions),
    some (ColumnWords.textsToToml settings.boilerplate),
   some (stock.tables.toToml.overlay settings.tables.toToml),
   some (stock.templates.toToml.overlay settings.templates.toToml),
   some (stock.links.toToml.overlay settings.links.toToml),
   some ((Value.table []).overlay
    (.table (optionalEntry "max_processes" (settings.maxWorkers.map fun count => .integer count))))]

lemma map_overlay_entries (settings : Settings) :
    settings.entries.map (fun entry => some (Value.overlay? (stock.entries.lookup entry.1) entry.2))
      = settings.laidOverStock := by
  have noWorkers : stock.maxWorkers = none := rfl
  have tables : stock.entries.lookup "tables" = some stock.tables.toToml := by
    simp [entries, lookup_cons]
  have templates : stock.entries.lookup "outlines" = some stock.templates.toToml := by
    simp [entries, lookup_cons]
  have links : stock.entries.lookup "links" = some stock.links.toToml := by
    simp [entries, lookup_cons]
  have processing : stock.entries.lookup "processing" = some (.table []) := by
    simp [entries, lookup_cons, noWorkers, optionalEntry]
  rw [entries.eq_1 settings, laidOverStock]
  simp only [map_cons, map_nil, Value.overlay?_of_not_table _ (ColumnWords.isTable_textsToToml _),
    tables, templates, links, processing]
  rfl

/-- What is read of settings that are laid over the stock settings. -/
lemma fields?_overlay_stock (settings : Settings) :
    (stock.toToml.overlay settings.toToml).fields? fieldNames
    = some (settings.naming.defaultNamespace.map .string :: settings.laidOverStock) := by
  have distinct := nodup_fieldNames
  rw [fieldNames_eq settings, nodup_cons] at distinct
  have known (settings : Settings) : ∀ key ∈ settings.entries.map (·.1), key ∈ fieldNames :=
    fun _ => mem_cons_of_mem _
  rw [toToml_stock, ← map_overlay_entries]
  cases isSpace : settings.naming.defaultNamespace with
  | none =>
      have written : settings.toToml = .table settings.entries := by
        rw [toToml, isSpace]
        rfl
      have notStock : "default_namespace" ∉ stock.entries.map (·.1) := distinct.1
      rw [written, Value.fields?_overlay distinct.2 (known settings) (known stock),
        fieldNames_eq settings, map_cons, Value.map_overlaid distinct.2,
        lookup_eq_none_iff_not_mem.2 distinct.1, lookup_eq_none_iff_not_mem.2 notStock]
      rfl
  | some space =>
      have written : settings.toToml
          = .table (("default_namespace", .string space) :: settings.entries) := by
        rw [toToml, isSpace]
        rfl
      have complete :
          ((("default_namespace", Value.string space) :: settings.entries).map (·.1)).Nodup :=
        nodup_fieldNames
      rw [written]
      refine (Value.fields?_overlay_complete complete (known stock)).trans ?_
      rw [map_cons, Value.overlay?_of_not_table _ rfl]
      rfl

/-- **Valid settings survive writing.**  Settings without a fault, written as a value and laid over
the stock settings, are read as they were, provided that a number of workers is not too large to be
written. -/
theorem resolve_toToml (settings : Settings) (valid : settings.fault? = none)
    (fits : ∀ count ∈ settings.maxWorkers, count < workerBound) :
    resolve settings.toToml = .ok settings := by
  have isRead : ofToml? (stock.toToml.overlay settings.toToml) = some settings := by
    have noFault := id valid
    simp only [fault?, Option.orElse_eq_orElse, Option.orElse_eq_or,
      Option.or_eq_none_iff] at noFault
    obtain ⟨-, -, -, resource, api, -⟩ := noFault
    have templates :=
      Templates.ofToml?_overlay stock.templates (TemplateItem.ofToml?_toTomlAll _ resource)
      (TemplateItem.ofToml?_toTomlAll _ api)
    rw [ofToml?, readFields?_of_fields? (fields?_overlay_stock settings), reader, laidOverStock]
    have isText : ∀ text, (Value.string text).text? = some text := fun _ => rfl
    rw [run'_optionalField isText]
    simp only [run'_field_some, ColumnWords.texts?_textsToToml, TableRules.ofToml?_overlay,
      templates, LinkRules.ofToml?_overlay, workersOfToml?_overlay fits, Option.bind_some]
    rfl
  rw [resolve, isRead]
  simp only [valid]

/-- Templates with groups in groups and slots below slots survive, and so do the fields that may be
missing. -/
theorem nested_template_survives :
    let request : TemplateItem := .slot ⟨3, "Request*", true, true, []⟩
    let examples : TemplateItem :=
      .slot ⟨2, "Examples", false, false, [.oneOf [request, .all [request, request]]]⟩
    let templates : Templates := ⟨[.all [examples, .oneOf [examples]]], []⟩
    let naming : TypeNaming := ⟨some "foo.bar", ["eTag"]⟩
    let settings : Settings := { stock with naming, templates, maxWorkers := some 4 }
    settings.fault? = none ∧ (∀ count ∈ settings.maxWorkers, count < workerBound)
      ∧ resolve settings.toToml = .ok settings := by
  intro request examples templates naming settings
  have valid : settings.fault? = none := by
    decide +kernel
  have fits : ∀ count ∈ settings.maxWorkers, count < workerBound := by
    rintro count ⟨⟩
    decide +kernel
  exact ⟨valid, fits, resolve_toToml settings valid fits⟩

end Settings

end DocAudit
