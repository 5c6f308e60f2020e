import DocAudit.Parameter
import Mathlib.Data.List.Nodup

/-!
# Joined lists of parameters

Joining rows with a list of parameters keeps the names of the list in their order and adds the new
names behind them, each at its first row (`Parameter.map_name_mergeLists`).  The rows that come
first with a new name are `Parameter.newcomers`.  Values that are written in the list stay, and rows
only fill in values that are missing (`Parameter.writtenFor_mergeLists`).
-/

namespace DocAudit.Parameter

open List

variable {row : Parameter} {rows known : List Parameter} {names : List String} {name : String}

/-! ## First rows of new names -/

/-- The rows with names that are not known, of each name the first one. -/
def newcomers (names : List String) (rows : List Parameter) : List Parameter :=
  (rows.filter (!names.contains ·.name)).eraseDupsBy fun a b => a.name == b.name

@[simp] lemma newcomers_nil (names : List String) : newcomers names [] = [] := rfl

lemma newcomers_cons_of_mem (old : row.name ∈ names) (rest : List Parameter) :
    newcomers names (row :: rest) = newcomers names rest := by
  rw [newcomers, filter_cons_of_neg (by simpa using old), newcomers]

lemma newcomers_cons_of_not_mem (new : row.name ∉ names) (rest : List Parameter) :
    newcomers names (row :: rest) = row :: newcomers (names ++ [row.name]) rest := by
  rw [newcomers, filter_cons_of_pos (by simpa using new), eraseDupsBy_cons,
    filter_filter, newcomers]
  congr 3
  funext other
  rw [contains_eq_mem, contains_eq_mem]
  simp only [mem_append, mem_singleton]
  by_cases same : other.name = row.name <;> simp [same]

lemma newcomers_sublist (names : List String) (rows : List Parameter) :
    newcomers names rows <+ rows := by
  induction rows generalizing names with
  | nil => exact Sublist.refl _
  | cons row rest ih =>
      by_cases old : row.name ∈ names
      · rw [newcomers_cons_of_mem old]
        exact (ih names).cons row
      · rw [newcomers_cons_of_not_mem old]
        exact (ih _).cons_cons row

/-- The names of the newcomers are those of rows that are not known. -/
lemma mem_map_name_newcomers :
    name ∈ (newcomers names rows).map (·.name) ↔ name ∈ rows.map (·.name) ∧ name ∉ names := by
  induction rows generalizing names with
  | nil => simp
  | cons row rest ih =>
      by_cases old : row.name ∈ names
      · rw [newcomers_cons_of_mem old, ih, map_cons, mem_cons]
        refine and_congr_left fun new => (or_iff_right ?_).symm
        rintro rfl
        exact new old
      · rw [newcomers_cons_of_not_mem old, map_cons, mem_cons, ih, map_cons, mem_cons, mem_append,
          mem_singleton]
        by_cases same : name = row.name
        · simp [same, old]
        · simp [same]

lemma nodup_map_name_newcomers (names : List String) (rows : List Parameter) :
    ((newcomers names rows).map (·.name)).Nodup := by
  induction rows generalizing names with
  | nil => exact nodup_nil
  | cons row rest ih =>
      by_cases old : row.name ∈ names
      · rw [newcomers_cons_of_mem old]
        exact ih names
      · rw [newcomers_cons_of_not_mem old, map_cons, nodup_cons, mem_map_name_newcomers]
        exact ⟨fun later => later.2 (by simp), ih _⟩

/-- A newcomer is the first row of its name. -/
lemma find?_of_mem_newcomers (mem : row ∈ newcomers names rows) :
    rows.find? (·.name == row.name) = some row := by
  induction rows generalizing names with
  | nil => cases mem
  | cons first rest ih =>
      -- a row with a known name is not the one that is looked for
      have skip {names : List String} (old : first.name ∈ names)
        (later : row ∈ newcomers names rest) :
          (first :: rest).find? (·.name == row.name) = some row := by
        have new := (mem_map_name_newcomers.1 (mem_map_of_mem (f := (·.name)) later)).2
        rw [find?_cons_of_neg, ih later]
        rw [beq_iff_eq]
        intro same
        exact new (same ▸ old)
      by_cases old : first.name ∈ names
      · exact skip old (newcomers_cons_of_mem old rest ▸ mem)
      · rw [newcomers_cons_of_not_mem old] at mem
        rcases mem_cons.1 mem with rfl | later
        · exact find?_cons_of_pos (beq_self_eq_true _)
        · exact skip (by simp) later

/-! ## Joined lists -/

lemma name_merge (a b : Parameter) : (a.merge b).value.name = a.name := rfl

/-- Of the types of two parameters joining keeps one. -/
lemma type_merge (a b : Parameter) :
    (a.merge b).value.type = a.type ∨ (a.merge b).value.type = b.type := by
  show (mergeType a.name a.type b.type).value = a.type
    ∨ (mergeType a.name a.type b.type).value = b.type
  unfold mergeType
  split
  · exact .inl rfl
  · split
    · exact .inr rfl
    · split
      · exact .inl rfl
      · exact .inr rfl

lemma writtenValue_merge (a b : Parameter) :
    (a.merge b).value.writtenValue = a.writtenValue.or b.writtenValue := by
  show (a.writtenValue <|> b.writtenValue) = _
  rw [Option.orElse_eq_orElse, Option.orElse_eq_or]

lemma map_name_mergeInto (row : Parameter) (known : List Parameter) :
    (row.mergeInto known).value.map (·.name)
      = if row.name ∈ known.map (·.name) then known.map (·.name)
        else known.map (·.name) ++ [row.name] := by
  induction known with
  | nil => rfl
  | cons first rest ih =>
      rw [mergeInto]
      by_cases same : first.name = row.name
      · simp [same, name_merge]
      · have other : row.name ∈ (first :: rest).map (·.name) ↔ row.name ∈ rest.map (·.name) := by
          simp [Ne.symm same]
        rw [if_neg same, Audit.value_bind, Audit.value_pure, map_cons, ih]
        simp only [other]
        split <;> simp

/-- Joining keeps the names of the list and adds those of the newcomers. -/
lemma map_name_mergeLists (known rows : List Parameter) :
    (mergeLists known rows).value.map (·.name)
      = known.map (·.name) ++ (newcomers (known.map (·.name)) rows).map (·.name) := by
  induction rows generalizing known with
  | nil => simp [mergeLists]
  | cons row rest ih =>
      have step : (mergeLists known (row :: rest)).value
          = (mergeLists (row.mergeInto known).value rest).value :=
        rfl
      rw [step, ih, map_name_mergeInto]
      by_cases old : row.name ∈ known.map (·.name)
      · rw [if_pos old, newcomers_cons_of_mem old]
      · rw [if_neg old, newcomers_cons_of_not_mem old, map_cons, append_assoc, singleton_append]

/-- Joined lists have the names of both. -/
lemma mem_map_name_mergeLists : name ∈ (mergeLists known rows).value.map (·.name) ↔
    name ∈ known.map (·.name) ∨ name ∈ rows.map (·.name) := by
  rw [map_name_mergeLists, mem_append, mem_map_name_newcomers]
  by_cases old : name ∈ known.map (·.name) <;> simp [old]

/-- Rows may repeat names, but joined with a list without repeated names they give one. -/
lemma nodup_map_name_mergeLists (distinct : (known.map (·.name)).Nodup) (rows : List Parameter) :
    ((mergeLists known rows).value.map (·.name)).Nodup := by
  rw [map_name_mergeLists]
  refine distinct.append (nodup_map_name_newcomers _ rows) fun name old new => ?_
  exact (mem_map_name_newcomers.1 new).2 old

/-! ## Written values -/

/-- The value that is written for the first parameter of a name. -/
def writtenFor (name : String) (parameters : List Parameter) : Option String :=
  (parameters.find? (·.name == name)).bind (·.writtenValue)

/-- The first value that is written in a row of a name. -/
def firstWritten (name : String) (rows : List Parameter) : Option String :=
  (rows.filter (·.name == name)).findSome? (·.writtenValue)

lemma writtenFor_cons (first : Parameter) (rest : List Parameter) : writtenFor name (first :: rest)
    = if first.name = name then first.writtenValue else writtenFor name rest := by
  by_cases same : first.name = name <;> simp [writtenFor, same]

lemma firstWritten_cons (row : Parameter) (rest : List Parameter) : firstWritten name (row :: rest)
    = if row.name = name then row.writtenValue.or (firstWritten name rest)
      else firstWritten name rest := by
  by_cases same : row.name = name
  · simp only [firstWritten, filter_cons, same, beq_self_eq_true, if_true, findSome?_cons]
    cases row.writtenValue <;> rfl
  · simp [firstWritten, same]

lemma writtenFor_mergeInto (row : Parameter) (known : List Parameter) :
    writtenFor name (row.mergeInto known).value
      = if row.name = name then (writtenFor name known).or row.writtenValue
        else writtenFor name known := by
  induction known with
  | nil =>
      rw [mergeInto, Audit.value_pure, writtenFor_cons]
      rfl
  | cons first rest ih =>
      rw [mergeInto]
      by_cases same : first.name = row.name
      · rw [if_pos same, Audit.value_bind, Audit.value_pure, writtenFor_cons, writtenFor_cons,
          name_merge, writtenValue_merge, same]
        split <;> rfl
      · rw [if_neg same, Audit.value_bind, Audit.value_pure, writtenFor_cons, writtenFor_cons, ih]
        by_cases here : first.name = name
        · rw [if_pos here, if_pos here, if_neg (here ▸ Ne.symm same)]
        · rw [if_neg here, if_neg here]

/-- What is written in the list counts, and rows count in their order where the list has nothing. -/
lemma writtenFor_mergeLists (known rows : List Parameter) :
    writtenFor name (mergeLists known rows).value
      = (writtenFor name known).or (firstWritten name rows) := by
  induction rows generalizing known with
  | nil => exact Option.or_none.symm
  | cons row rest ih =>
      have step : (mergeLists known (row :: rest)).value
          = (mergeLists (row.mergeInto known).value rest).value :=
        rfl
      rw [step, ih, writtenFor_mergeInto, firstWritten_cons]
      split
      · rw [Option.or_assoc]
      · rfl

lemma writtenFor_map {change : Parameter → Parameter}
    (names : ∀ parameter, (change parameter).name = parameter.name)
    (values : ∀ parameter, (change parameter).writtenValue = parameter.writtenValue)
    (parameters : List Parameter) :
    writtenFor name (parameters.map change) = writtenFor name parameters := by
  induction parameters with
  | nil => rfl
  | cons first rest ih => rw [map_cons, writtenFor_cons, writtenFor_cons, names, values, ih]

/-- In a list without repeated names the value for a name is that of the parameter with the name. -/
lemma writtenFor_eq_some {parameters : List Parameter} (distinct : (parameters.map (·.name)).Nodup)
    {text : String} : writtenFor name parameters = some text ↔
      ∃ parameter ∈ parameters, parameter.name = name ∧ parameter.writtenValue = some text := by
  induction parameters with
  | nil => simp [writtenFor]
  | cons first rest ih =>
      obtain ⟨new, distinct⟩ := nodup_cons.1 distinct
      rw [writtenFor_cons, exists_mem_cons_iff]
      by_cases same : first.name = name
      · have absent : ¬ ∃ parameter ∈ rest, parameter.name = name
            ∧ parameter.writtenValue = some text := by
          rintro ⟨parameter, mem, named, -⟩
          exact new (mem_map.2 ⟨parameter, mem, named.trans same.symm⟩)
        rw [if_pos same, or_iff_left absent, and_iff_right same]
      · rw [if_neg same, ih distinct, or_iff_right fun here => same here.1]

/-! ## What joining keeps -/

section

variable {Holds : Parameter → Prop}
  (keeps : ∀ {a b : Parameter}, Holds a → Holds b → Holds (a.merge b).value)
include keeps

lemma forall_mem_mergeInto (ofRow : Holds row) (ofKnown : ∀ parameter ∈ known, Holds parameter) :
    ∀ parameter ∈ (row.mergeInto known).value, Holds parameter := by
  induction known with
  | nil => exact forall_mem_singleton.2 ofRow
  | cons first rest ih =>
      obtain ⟨ofFirst, ofRest⟩ := forall_mem_cons.1 ofKnown
      rw [mergeInto]
      split
      · exact forall_mem_cons.2 ⟨keeps ofFirst ofRow, ofRest⟩
      · exact forall_mem_cons.2 ⟨ofFirst, ih ofRest⟩

/-- What holds of all parameters of two lists holds of the joined ones, if joining two of them keeps
it. -/
lemma forall_mem_mergeLists (ofKnown : ∀ parameter ∈ known, Holds parameter)
    (ofRows : ∀ row ∈ rows, Holds row) :
    ∀ parameter ∈ (mergeLists known rows).value, Holds parameter := by
  rw [mergeLists, Audit.value_foldlM]
  exact foldlRecOn
    (motive := fun known : List Parameter => ∀ parameter ∈ known, Holds parameter)
    rows _ ofKnown fun _ held row mem => forall_mem_mergeInto keeps (ofRows row mem) held

end

end DocAudit.Parameter
