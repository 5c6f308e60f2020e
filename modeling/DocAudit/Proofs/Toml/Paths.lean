import DocAudit.Proofs.Toml.Overlay

/-!
# Values along paths

A value laid over another one decides path by path what is found in the joined value (`at?_overlay`,
`overlay_by_path`).  What it has at a path is laid over what the lower one has there.  What is no
table hides all that the lower value has behind it, and where the upper value has nothing to say the
lower one counts.

Laying a value over another one a second time changes nothing (`overlay_overlay`), because each
entry of its tables has already been laid over the one that it meets again
(`overlayEntries_eq_self`).
-/

namespace DocAudit.Toml.Value

open List

variable {base upper value : Value} {entries joined : List (String × Value)} {key : String}
  {path before rest : List String}

/-! ## Paths -/

lemma at?_append (before rest : List String) (value : Value) :
    value.at? (before ++ rest) = (value.at? before).bind (at? rest) := by
  induction before generalizing value with
  | nil => rfl
  | cons key before ih =>
      rw [cons_append, at?, at?, Option.bind_assoc]
      exact Option.bind_congr fun inner _ => ih inner

/-- What is no table has nothing in it. -/
lemma get?_of_not_table (noTable : value.isTable = false) (key : String) :
    value.get? key = none := by
  cases value with
  | table entries => cases noTable
  | _ => rfl

lemma exists_table_of_get? (found : base.get? key = some value) :
    ∃ entries, base = table entries ∧ entries.lookup key = some value := by
  cases base with
  | table entries => exact ⟨entries, rfl, found⟩
  | _ => cases found

/-- What is found in a value has distinct keys as well. -/
lemma HasDistinctKeys.get? (distinct : base.HasDistinctKeys) (found : base.get? key = some value) :
    value.HasDistinctKeys := by
  obtain ⟨entries, rfl, isEntry⟩ := exists_table_of_get? found
  exact (hasDistinctKeys_table.1 distinct).2 _ (mem_of_lookup isEntry)

/-- What is found in a table that is laid over another value. -/
lemma get?_overlay (distinct : upper.HasDistinctKeys) (isTable : upper.isTable = true)
    (base : Value) (key : String) :
    (base.overlay upper).get? key
      = ((upper.get? key).map (overlay? (base.get? key))).or (base.get? key) := by
  cases upper with
  | table entries =>
      cases below : base.isTable with
      | true =>
          cases base with
          | table baseEntries =>
              rw [overlay_table]
              exact lookup_overlayEntries (hasDistinctKeys_table.1 distinct).1
          | _ => cases below
      | false =>
          rw [overlay_over_not_table below, get?_of_not_table below, Option.or_none]
          exact Option.map_id'.symm
  | _ => cases isTable

/-- What is laid over another value says whether there is a table. -/
lemma isTable_overlay (base upper : Value) : (base.overlay upper).isTable = upper.isTable := by
  cases isTable : upper.isTable with
  | false => rw [overlay_of_not_table base isTable, isTable]
  | true =>
      cases upper with
      | table entries =>
          cases below : base.isTable with
          | false => rw [overlay_over_not_table below, isTable]
          | true =>
              cases base with
              | table baseEntries =>
                  rw [overlay_table]
                  rfl
              | _ => cases below
      | _ => cases isTable

lemma isTable_overlay? (base : Option Value) (upper : Value) :
    (overlay? base upper).isTable = upper.isTable := by
  cases base with
  | none => rfl
  | some old => exact isTable_overlay old upper

/-! ## What is found at a path -/

/-- **What the upper value has at a path** is laid over what the lower one has there. -/
theorem at?_overlay (distinct : upper.HasDistinctKeys) (found : upper.at? path = some value)
    (base : Value) :
    (base.overlay upper).at? path = some (overlay? (base.at? path) value) := by
  induction path generalizing base upper with
  | nil =>
      cases found
      rfl
  | cons key path ih =>
      obtain ⟨inner, first, later⟩ := Option.bind_eq_some_iff.1 found
      have isTable : upper.isTable = true := by
        obtain ⟨entries, rfl, -⟩ := exists_table_of_get? first
        rfl
      rw [at?, at?, get?_overlay distinct isTable, first]
      cases base.get? key with
      | none => exact later
      | some old => exact ih (distinct.get? first) later old

/-- Whether something that is no table stands at a proper start of a path. -/
def Hides (upper : Value) (path : List String) : Prop :=
  ∃ before rest value, path = before ++ rest ∧ rest ≠ [] ∧ upper.at? before = some value
    ∧ value.isTable = false

lemma hides_cons_iff : upper.Hides (key :: path) ↔
    upper.isTable = false ∨ ∃ inner, upper.get? key = some inner ∧ inner.Hides path := by
  constructor
  · rintro ⟨before, rest, value, split, nonempty, found, noTable⟩
    cases before with
    | nil =>
        cases found
        exact .inl noTable
    | cons first before =>
        obtain ⟨rfl, rfl⟩ := cons.inj split
        obtain ⟨inner, isInner, later⟩ := Option.bind_eq_some_iff.1 found
        exact .inr ⟨inner, isInner, before, rest, value, rfl, nonempty, later, noTable⟩
  · rintro (noTable | ⟨inner, isInner, before, rest, value, rfl, nonempty, later, noTable⟩)
    · exact ⟨[], key :: path, upper, rfl, cons_ne_nil key path, rfl, noTable⟩
    · exact ⟨key :: before, rest, value, rfl, nonempty,
        Option.bind_eq_some_iff.2 ⟨inner, isInner, later⟩, noTable⟩

/-- Nothing is found behind what is no table. -/
lemma at?_overlay_of_hides (distinct : upper.HasDistinctKeys) (hides : upper.Hides path)
    (base : Value) :
    (base.overlay upper).at? path = none := by
  obtain ⟨before, rest, value, rfl, nonempty, found, noTable⟩ := hides
  obtain ⟨key, rest, rfl⟩ := exists_cons_of_ne_nil nonempty
  rw [at?_append, at?_overlay distinct found, overlay?_of_not_table _ noTable, Option.bind_some,
    at?, get?_of_not_table noTable, Option.bind_none]

/-- Where the upper value has nothing and hides nothing, the lower one counts. -/
lemma at?_overlay_of_eq_none (distinct : upper.HasDistinctKeys) (missing : upper.at? path = none)
    (unhidden : ¬ upper.Hides path) (base : Value) :
    (base.overlay upper).at? path = base.at? path := by
  induction path generalizing base upper with
  | nil => cases missing
  | cons key path ih =>
      rw [hides_cons_iff, not_or, Bool.not_eq_false] at unhidden
      obtain ⟨isTable, unhidden⟩ := unhidden
      rw [at?, at?, get?_overlay distinct isTable]
      cases first : upper.get? key with
      | none => rfl
      | some inner =>
          rw [at?, first] at missing
          cases base.get? key with
          | none => exact missing
          | some old =>
              exact ih (distinct.get? first) missing
                (fun hides => unhidden ⟨inner, first, hides⟩) old

/-! ## Laying a value over another one again -/

/-- Setting what is there already changes nothing. -/
lemma setEntry_of_lookup (found : entries.lookup key = some value) :
    setEntry key value entries = entries := by
  induction entries with
  | nil => cases found
  | cons entry rest ih =>
      obtain ⟨known, old⟩ := entry
      rw [setEntry]
      split
      · next same =>
          rw [same, lookup_cons_self, Option.some_inj] at found
          rw [same, found]
      · next other =>
          rw [lookup_cons_of_ne (Ne.symm other)] at found
          rw [ih found]

/-- Entries that have been laid over others already change nothing. -/
lemma overlayEntries_eq_self (settled : ∀ entry ∈ entries, ∃ old, joined.lookup entry.1 = some old
    ∧ old.overlay entry.2 = old) : overlayEntries joined entries = joined := by
  induction entries with
  | nil => rw [overlayEntries]
  | cons entry rest ih =>
      obtain ⟨⟨old, found, same⟩, later⟩ := forall_mem_cons.1 settled
      rw [overlayEntries_cons, found, overlay?, same, setEntry_of_lookup found, ih later]

/-- **Laying a value over another one again changes nothing.** -/
theorem overlay_overlay (distinct : upper.HasDistinctKeys) (base : Value) :
    (base.overlay upper).overlay upper = base.overlay upper := by
  induction distinct generalizing base with
  | @table entries distinct _ ih =>
      -- a value laid over itself is a case of the induction hypothesis, with anything below that is
      -- no table
      have self (entry : String × Value) (mem : entry ∈ entries) : entry.2.overlay entry.2
          = entry.2 := by
        have same : (boolean true).overlay entry.2 = entry.2 := overlay_over_not_table rfl
        have again := ih entry mem (boolean true)
        rwa [same] at again
      cases below : base.isTable with
      | false =>
          rw [overlay_over_not_table below, overlay_table]
          refine congrArg table (overlayEntries_eq_self fun entry mem => ?_)
          exact ⟨entry.2, lookup_of_mem distinct mem, self entry mem⟩
      | true =>
          cases base with
          | table baseEntries =>
              rw [overlay_table, overlay_table]
              refine congrArg table (overlayEntries_eq_self fun entry mem => ?_)
              refine ⟨overlay? (baseEntries.lookup entry.1) entry.2, ?_, ?_⟩
              · rw [lookup_overlayEntries distinct, lookup_of_mem distinct mem]
                rfl
              · cases baseEntries.lookup entry.1 with
                | none => exact self entry mem
                | some old => exact ih entry mem old
          | _ => cases below
  | _ => rw [overlay_of_not_table _ rfl, overlay_of_not_table _ rfl]

/-! ## All paths -/

/-- **A value is laid over another one path by path.**

* What is no table at a path is found there, and nothing behind it.
* Where there is a table, there is a table in the joined value.
* Where there is nothing, and nothing but tables before, what the lower value has there is found.
* Laying the value over the joined one again changes nothing. -/
theorem overlay_by_path (base : Value) (distinct : upper.HasDistinctKeys) (path : List String) :
    (∀ value, upper.at? path = some value → value.isTable = false →
      (base.overlay upper).at? path = some value)
      ∧ (upper.Hides path → (base.overlay upper).at? path = none)
      ∧ (∀ value, upper.at? path = some value → value.isTable = true →
        ∃ joined, (base.overlay upper).at? path = some joined ∧ joined.isTable = true)
      ∧ (upper.at? path = none → ¬ upper.Hides path → (base.overlay upper).at? path = base.at? path)
      ∧ (base.overlay upper).overlay upper = base.overlay upper := by
  refine ⟨fun value found noTable => ?_, fun hides => at?_overlay_of_hides distinct hides base,
    fun value found isTable => ⟨_, at?_overlay distinct found base, ?_⟩,
    fun missing unhidden => at?_overlay_of_eq_none distinct missing unhidden base,
      overlay_overlay distinct base⟩
  · rw [at?_overlay distinct found, overlay?_of_not_table _ noTable]
  · rw [isTable_overlay?, isTable]

/-- Settings with a table for links and one for tables. -/
def settingsBelow : Value :=
  table [("links", table [("external", boolean false), ("roots", array [string "index.md"])]),
    ("tables", table [("name", string "Field")]), ("threads", integer 4)]

/-- Settings that replace a table by a text and a number by a table. -/
def settingsAbove : Value :=
  table [("links", table [("external", boolean true)]), ("tables", string "none"),
    ("threads", table [("most", integer 2)])]

/-- Each way in which the value at a path is found. -/
theorem settings_overlay_by_path :
    settingsAbove.HasDistinctKeys
      ∧ (settingsBelow.overlay settingsAbove).at? ["links", "external"] = some (boolean true)
      ∧ (settingsBelow.overlay settingsAbove).at? ["tables", "name"] = none
      ∧ (∃ joined, (settingsBelow.overlay settingsAbove).at? ["threads"] = some joined
        ∧ joined.isTable = true)
      ∧ (settingsBelow.overlay settingsAbove).at? ["links", "roots"]
        = some (array [string "index.md"])
      ∧ (settingsBelow.overlay settingsAbove).overlay settingsAbove
        = settingsBelow.overlay settingsAbove := by
  have distinct : settingsAbove.HasDistinctKeys := by
    have links : (table [("external", boolean true)]).HasDistinctKeys :=
      .table (by decide) (by simpa using .boolean true)
    have threads : (table [("most", integer 2)]).HasDistinctKeys :=
      .table (by decide) (by simpa using .integer 2)
    exact .table (by decide) (by simpa using ⟨links, .string "none", threads⟩)
  have unhidden : ¬ settingsAbove.Hides ["links", "roots"] := by
    rw [hides_cons_iff]
    rintro (noTable | ⟨inner, found, hides⟩)
    · cases noTable
    · cases found
      rcases hides_cons_iff.1 hides with noTable | ⟨inner, found, -⟩
      · cases noTable
      · cases found
  exact ⟨distinct, (overlay_by_path settingsBelow distinct ["links", "external"]).1 _ rfl rfl,
    (overlay_by_path settingsBelow distinct ["tables", "name"]).2.1
      ⟨["tables"], ["name"], string "none", rfl, cons_ne_nil _ _, rfl, rfl⟩,
    (overlay_by_path settingsBelow distinct ["threads"]).2.2.1 _ rfl rfl,
    (overlay_by_path settingsBelow distinct ["links", "roots"]).2.2.2.1 rfl unhidden,
    (overlay_by_path settingsBelow distinct []).2.2.2.2⟩

end DocAudit.Toml.Value
