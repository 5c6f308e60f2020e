import DocAudit.Proofs.Lookup
import DocAudit.Record
import Mathlib.Data.List.Forall2

/-!
# Reading records

A record has the fields that its names ask for (`Record.named?_eq_some_iff`) or that its values
stand for in order (`Record.positional?_eq_some_iff`).  They are read one by one: a reader either
reads its first field with its value or takes the default, and goes on behind it.  A list is read
item by item (`mapM_eq_some_iff`).
-/

namespace DocAudit

open List

variable {ν μ α β : Type}

/-! ## Lists -/

lemma mapM_eq_some_iff {read? : ν → Option α} {values : List ν} {items : List α} :
    values.mapM read? = some items ↔
      Forall₂ (fun value item => read? value = some item) values items := by
  induction values generalizing items with
  | nil =>
      rw [mapM_nil, forall₂_nil_left_iff, eq_comm]
      exact Option.some_inj
  | cons value rest ih =>
      rw [mapM_cons, forall₂_cons_left_iff]
      simp only [Option.bind_eq_bind, Option.bind_eq_some_iff, Option.pure_def, Option.some_inj, ih]
      constructor
      · rintro ⟨item, isRead, items, areRead, rfl⟩
        exact ⟨item, items, isRead, areRead, rfl⟩
      · rintro ⟨item, items, isRead, areRead, rfl⟩
        exact ⟨item, isRead, items, areRead, rfl⟩

/-- Every item of a list that is read is read by itself. -/
lemma isSome_of_mem_mapM {read? : ν → Option α} {values : List ν}
    (isRead : (values.mapM read?).isSome = true)
    {value : ν} (mem : value ∈ values) : (read? value).isSome = true := by
  obtain ⟨items, areRead⟩ := Option.isSome_iff_exists.1 isRead
  have each := mapM_eq_some_iff.1 areRead
  clear isRead areRead
  induction each with
  | nil => cases mem
  | cons first _ ih =>
      rcases mem_cons.1 mem with rfl | later
      · exact Option.isSome_of_eq_some first
      · exact ih later

/-! ## Fields -/

namespace Record

variable {names : List String} {entries : List (String × ν)} {values : List ν}
  {fields : List (Option ν)} {count : Nat}

lemma named?_eq_some_iff : named? names entries = some fields ↔
    (∀ key ∈ entries.map (·.1), key ∈ names) ∧ names.map (entries.lookup ·) = fields := by
  rw [named?, Option.ite_none_right_eq_some, Option.some_inj, all_eq_true, forall_mem_map]
  simp only [contains_iff_mem]

lemma positional?_eq_some_iff : positional? count values = some fields ↔
    values.length ≤ count ∧ values.map some ++ replicate (count - values.length) none = fields := by
  rw [positional?, Option.ite_none_right_eq_some, Option.some_inj]

/-- Changing the values of entries changes those of the fields. -/
lemma named?_map (change : ν → μ) (names : List String) (entries : List (String × ν)) :
    named? names (entries.map (Prod.map id change))
      = (named? names entries).map (·.map (·.map change)) := by
  have sameKeys : (entries.map (Prod.map id change)).all (fun entry => names.contains entry.1)
      = entries.all fun entry => names.contains entry.1 := all_map
  rw [named?, named?, sameKeys]
  simp only [lookup_map_snd]
  split
  · rw [Option.map_some, map_map]
    rfl
  · rfl

lemma positional?_map (change : ν → μ) (count : Nat) (values : List ν) :
    positional? count (values.map change)
      = (positional? count values).map (·.map (·.map change)) := by
  rw [positional?, positional?, length_map]
  split
  · rw [Option.map_some, map_append, map_replicate, map_map, map_map]
    rfl
  · rfl

end Record

/-! ## Readers -/

namespace FieldReader

variable {default : α} {read? : ν → Option α} {next : α → FieldReader ν β} {value : ν}
  {rest fields : List (Option ν)}

lemma run'_last_field : (field default read?).run' [some value] = read? value := by
  cases isRead : read? value <;> simp [field, StateT.run', isRead]

lemma run'_field_some : (field default read? >>= next).run' (some value :: rest)
    = (read? value).bind fun read => (next read).run' rest := by
  cases isRead : read? value <;> simp [field, StateT.run', bind, StateT.bind, isRead]

lemma run'_requiredField_some : (requiredField read? >>= next).run' (some value :: rest)
    = (read? value).bind fun read => (next read).run' rest := by
  cases isRead : read? value <;> simp [requiredField, StateT.run', bind, StateT.bind, isRead]

/-- A field is read from its value, or has its default. -/
lemma run'_field_eq_some_iff {result : β} :
    (field default read? >>= next).run' fields = some result ↔
    ∃ value? rest read, fields = value? :: rest ∧ value?.elim (some default) read? = some read
      ∧ (next read).run' rest = some result := by
  constructor
  · intro isRead
    cases fields with
    | nil => cases isRead
    | cons value? rest =>
        cases value? with
        | none => exact ⟨none, rest, default, rfl, rfl, isRead⟩
        | some value =>
            rw [run'_field_some, Option.bind_eq_some_iff] at isRead
            obtain ⟨read, first, later⟩ := isRead
            exact ⟨some value, rest, read, rfl, first, later⟩
  · rintro ⟨value?, rest, read, rfl, first, later⟩
    cases value? with
    | none =>
        obtain rfl := Option.some.inj first
        exact later
    | some value => exact run'_field_some.trans (Option.bind_eq_some_iff.2 ⟨read, first, later⟩)

/-- A field that has been read is there, or has its default; its value can be read. -/
lemma exists_of_run'_field {result : β}
    (isRead : (field default read? >>= next).run' fields = some result) :
    ∃ value? rest read, fields = value? :: rest ∧ (∀ value ∈ value?, read? value = some read)
      ∧ (next read).run' rest = some result := by
  obtain ⟨value?, rest, read, split, first, later⟩ := run'_field_eq_some_iff.1 isRead
  refine ⟨value?, rest, read, split, ?_, later⟩
  rintro value ⟨⟩
  exact first

lemma exists_of_run'_requiredField {result : β}
    (isRead : (requiredField read? >>= next).run' fields = some result) :
    ∃ value rest read, fields = some value :: rest ∧ read? value = some read
      ∧ (next read).run' rest = some result := by
  cases fields with
  | nil => cases isRead
  | cons value? rest =>
      cases value? with
      | none => cases isRead
      | some value =>
          rw [run'_requiredField_some, Option.bind_eq_some_iff] at isRead
          obtain ⟨read, first, later⟩ := isRead
          exact ⟨value, rest, read, rfl, first, later⟩

end FieldReader

end DocAudit
