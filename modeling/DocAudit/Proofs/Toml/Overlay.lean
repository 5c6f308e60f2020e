import DocAudit.Proofs.Lookup
import DocAudit.Proofs.Record
import DocAudit.Toml.Record

/-!
# Laying one value over another

A table laid over another one has the keys of both (`Toml.Value.mem_keys_overlayEntries`).  At each
key it has the value of the upper one, laid over that of the lower one if both have the key
(`Toml.Value.lookup_overlayEntries`).  This is all that a record depends on that is read from it
(`Toml.Value.fields?_overlay`).
-/

namespace DocAudit.Toml.Value

open List

/-- No table in a value has two entries with one key. -/
inductive HasDistinctKeys : Value → Prop where
  | string (text : String) : HasDistinctKeys (.string text)
  | integer (value : Int) : HasDistinctKeys (.integer value)
  | float (text : String) : HasDistinctKeys (.float text)
  | boolean (value : Bool) : HasDistinctKeys (.boolean value)
  | datetime (text : String) : HasDistinctKeys (.datetime text)
  | array {items : List Value} (each : ∀ item ∈ items, item.HasDistinctKeys) :
      HasDistinctKeys (.array items)
  | table {entries : List (String × Value)} (distinct : (entries.map (·.1)).Nodup)
      (values : ∀ entry ∈ entries, entry.2.HasDistinctKeys) : HasDistinctKeys (.table entries)

lemma hasDistinctKeys_array {items : List Value} :
    (array items).HasDistinctKeys ↔ ∀ item ∈ items, item.HasDistinctKeys :=
  ⟨fun | .array each => each, .array⟩

lemma hasDistinctKeys_table {entries : List (String × Value)} : (table entries).HasDistinctKeys ↔
    (entries.map (·.1)).Nodup ∧ ∀ entry ∈ entries, entry.2.HasDistinctKeys :=
  ⟨fun | .table distinct values => ⟨distinct, values⟩, fun h => .table h.1 h.2⟩

variable {base upper : List (String × Value)} {key other : String} {value : Value}

/-! ## Single entries -/

lemma lookup_setEntry_self : (setEntry key value base).lookup key = some value := by
  induction base with
  | nil => exact lookup_cons_self
  | cons entry rest ih =>
      obtain ⟨known, old⟩ := entry
      rw [setEntry]
      split
      · exact lookup_cons_self
      · next notKnown => rw [lookup_cons_of_ne (Ne.symm notKnown), ih]

lemma lookup_setEntry_of_ne (isOther : other ≠ key) :
    (setEntry key value base).lookup other = base.lookup other := by
  induction base with
  | nil => exact lookup_cons_of_ne isOther
  | cons entry rest ih =>
      obtain ⟨known, old⟩ := entry
      rw [setEntry]
      split
      · next isKnown => rw [lookup_cons_of_ne isOther, lookup_cons_of_ne (isKnown ▸ isOther)]
      · rw [lookup_cons, lookup_cons, ih]

/-! ## Tables -/

/-- A value laid over one that may be missing. -/
def overlay? (base : Option Value) (upper : Value) : Value :=
  match base with
  | some old => old.overlay upper
  | none => upper

lemma overlayEntries_cons : overlayEntries base ((key, value) :: upper)
    = overlayEntries (setEntry key (overlay? (base.lookup key) value) base) upper := by
  rw [overlayEntries]
  rfl

/-- **The value at a key** is the upper one, laid over the lower one, or else the lower one. -/
theorem lookup_overlayEntries (distinct : (upper.map (·.1)).Nodup) :
    (overlayEntries base upper).lookup key
    = ((upper.lookup key).map (overlay? (base.lookup key))).or (base.lookup key) := by
  induction upper generalizing base with
  | nil =>
      rw [overlayEntries]
      rfl
  | cons entry rest ih =>
      obtain ⟨first, value⟩ := entry
      rw [map_cons, nodup_cons] at distinct
      rw [overlayEntries_cons, ih distinct.2]
      by_cases same : key = first
      · subst same
        rw [lookup_setEntry_self, lookup_cons_self, lookup_eq_none_iff_not_mem.2 distinct.1]
        rfl
      · rw [lookup_setEntry_of_ne same, lookup_cons_of_ne same]

lemma mem_keys_overlayEntries (distinct : (upper.map (·.1)).Nodup) :
    key ∈ (overlayEntries base upper).map (·.1) ↔ key ∈ base.map (·.1) ∨ key ∈ upper.map (·.1) := by
  rw [← isSome_lookup_iff, ← isSome_lookup_iff, ← isSome_lookup_iff, lookup_overlayEntries distinct]
  cases base.lookup key <;> cases upper.lookup key <;> simp

lemma overlay_table : (table base).overlay (.table upper) = .table (overlayEntries base upper) := by
  rw [overlay]

/-- What is no table replaces what it is laid over. -/
lemma overlay_of_not_table (lower : Value) (noTable : value.isTable = false) :
    lower.overlay value = value := by
  rw [overlay.eq_def]
  cases value with
  | table upper => cases noTable
  | _ => rfl

lemma overlay?_of_not_table (lower : Option Value) (noTable : value.isTable = false) :
    overlay? lower value = value := by
  cases lower with
  | none => rfl
  | some old => exact overlay_of_not_table old noTable

/-- What is no table is replaced by whatever is laid over it. -/
lemma overlay_over_not_table {lower : Value} (noTable : lower.isTable = false) :
    lower.overlay value = value := by
  cases isTable : value.isTable with
  | false => exact overlay_of_not_table lower isTable
  | true =>
      cases value with
      | table upper =>
          cases lower with
          | table base => cases noTable
          | _ => rw [overlay]; exact nofun
      | _ => cases isTable

/-- A table laid over a value is a table with its keys and perhaps with others. -/
lemma exists_overlay_table (distinct : (upper.map (·.1)).Nodup) (lower : Value) :
    ∃ joined, lower.overlay (.table upper) = .table joined ∧ ∀ key ∈ upper.map (·.1),
      key ∈ joined.map (·.1) := by
  cases isTable : lower.isTable with
  | false => exact ⟨upper, overlay_over_not_table isTable, fun _ => id⟩
  | true =>
      cases lower with
      | table base =>
          exact ⟨_, overlay_table, fun key mem => (mem_keys_overlayEntries distinct).2 (.inr mem)⟩
      | _ => cases isTable

/-! ## Fields of records -/

variable {names : List String}

/-- A record with all its fields in order has their values. -/
lemma fields?_complete (distinct : (upper.map (·.1)).Nodup) :
    (table upper).fields? (upper.map (·.1)) = some (upper.map fun entry => some entry.2) := by
  rw [fields?, Record.named?_eq_some_iff, map_map]
  exact ⟨fun _ => id, map_congr_left fun entry mem => lookup_of_mem distinct mem⟩

/-- The fields of a record that is laid over another one. -/
lemma fields?_overlay (distinct : (upper.map (·.1)).Nodup)
    (known : ∀ key ∈ upper.map (·.1), key ∈ names)
    (knownBelow : ∀ key ∈ base.map (·.1), key ∈ names) :
    ((table base).overlay (.table upper)).fields? names
      = some (names.map fun name =>
        ((upper.lookup name).map (overlay? (base.lookup name))).or (base.lookup name)) := by
  rw [overlay_table, fields?, Record.named?_eq_some_iff]
  refine ⟨fun key mem => ?_, map_congr_left fun name _ => lookup_overlayEntries distinct⟩
  exact ((mem_keys_overlayEntries distinct).1 mem).elim (knownBelow key) (known key)

lemma map_overlaid (distinct : (upper.map (·.1)).Nodup) :
    (upper.map (·.1)).map (fun name =>
      ((upper.lookup name).map (overlay? (base.lookup name))).or (base.lookup name))
      = upper.map fun entry => some (overlay? (base.lookup entry.1) entry.2) := by
  rw [map_map]
  refine map_congr_left fun entry mem => ?_
  rw [Function.comp_apply, lookup_of_mem distinct mem]
  rfl

/-- A record with all its fields in order, laid over another one, has their values, laid over the
other ones. -/
lemma fields?_overlay_complete (distinct : (upper.map (·.1)).Nodup)
    (knownBelow : ∀ key ∈ base.map (·.1), key ∈ upper.map (·.1)) :
    ((table base).overlay (.table upper)).fields? (upper.map (·.1))
      = some (upper.map fun entry => some (overlay? (base.lookup entry.1) entry.2)) := by
  rw [fields?_overlay distinct (fun _ => id) knownBelow, map_overlaid distinct]

end DocAudit.Toml.Value
