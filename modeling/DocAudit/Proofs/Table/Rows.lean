import DocAudit.Proofs.Page.Codes
import DocAudit.Proofs.Table
import Mathlib.Data.List.Basic

/-!
# The records of a table

A table becomes a list of records, one for each row that says something in the key column, in the
order of the rows (`Table.named_rows_kept`).  Whether there is a key column depends on the headers
alone (`keyColumn?_eq`, `column?_eq_none_iff`), and nothing but a missing key column, or a missing
heading above the members of an enumeration, keeps a table of a known kind from being read
(`isReading_of_isUnreadable`, `isReading_readRows`).
-/

namespace DocAudit

open List Audit

/-- Whether rows are of the sort that tables of a kind have.  Any table may have unknown rows. -/
def TableRows.IsOf (kind : TableKind) : TableRows → Prop
  | .parameters _ => kind.location? ≠ none
  | .errors _ => kind = .errorCodes
  | .scopes _ => kind = .authScopes
  | .members _ => kind = .enumValues
  | .unknown => True

/-- The keys of the records in rows. -/
def TableRows.keys : TableRows → List String
  | .parameters rows => rows.map (·.name)
  | .errors rows => rows.map (·.code)
  | .scopes rows => rows.map (·.scope)
  | .members rows => rows.map (·.member)
  | .unknown => []

namespace Table

variable {naming : TypeNaming} {rules : TableRules} {columns : ColumnWords} {shape : TableShape}
  {titles : List String} {line column : ℕ} {kind : TableKind} {key : String} {row : List String}

/-! ## The key column -/

/-- The words for the key column of tables of a kind, in the order in which they are tried. -/
def keyWords (columns : ColumnWords) : TableKind → List String
  | .unknown => []
  | .errorCodes => columns.errorCode
  | .authScopes => columns.scope ++ columns.name
  | .enumValues => columns.member ++ (columns.value ++ columns.name)
  | .headers | .responseHeaders => columns.header ++ columns.name
  | _ => columns.name

/-- Whether a table of a kind has no key column, or has members of an enumeration and no heading
that names it. -/
def IsUnreadable (columns : ColumnWords) (shape : TableShape) (titles : List String)
    (kind : TableKind) : Prop :=
  (∀ word ∈ keyWords columns kind, ∀ header ∈ shape.headers, isHeader word header = false)
    ∨ kind = .enumValues ∧ titles = []

instance : Decidable (IsUnreadable columns shape titles kind) :=
  inferInstanceAs (Decidable (_ ∨ _))

lemma column?_append (shape : TableShape) (first later : List String) :
    shape.column? (first ++ later) = (shape.column? first).or (shape.column? later) :=
  findSome?_append

lemma column?_eq_none_iff {words : List String} :
    shape.column? words = none ↔ ∀ word ∈ words, ∀ header ∈ shape.headers,
      isHeader word header = false := by
  simp only [TableShape.column?, findSome?_eq_none_iff, findIdx?_eq_none_iff]

/-- The key column is looked for by all its words, one after the other. -/
lemma keyColumn?_eq (columns : ColumnWords) (shape : TableShape) (kind : TableKind) :
    keyColumn? columns shape kind = shape.column? (keyWords columns kind) := by
  cases kind <;> simp only [keyColumn?, keyWords, column?_append, Option.orElse_eq_orElse,
    Option.orElse_eq_or]
  rfl

/-! ## Rows with a key -/

/-- Rows without a key are left out, and all other rows keep their order. -/
lemma map_fst_keyedRows (shape : TableShape) (column : ℕ) :
    (keyedRows shape column).map (·.1)
      = (shape.rows.map fun row => cellContent (cell row (some column))).filter (!·.isEmpty) := by
  rw [keyedRows]
  induction shape.rows with
  | nil => rfl
  | cons row rest ih =>
      rw [filterMap_cons, content?, map_cons]
      by_cases isEmpty : (cellContent (cell row (some column))).isEmpty = true
      · simp [isEmpty, ih]
      · simp [isEmpty, ih]

lemma name_parameterOf : (parameterOf naming columns shape kind key row).value.name = key := by
  simp only [parameterOf]
  split <;> rfl

lemma location_parameterOf :
    (parameterOf naming columns shape kind key row).value.location
      = kind.location?.getD .jsonObject := by
  simp only [parameterOf]
  split <;> rfl

lemma navigable_parameterOf :
    (parameterOf naming columns shape kind key row).value.navigable
      = (kind == .navigationProperties) := by
  simp only [parameterOf]
  split <;> rfl

/-! ## Tables that are read -/

lemma isOf_readRows (known : kind ≠ .unknown) :
    (readRows naming columns shape titles line kind column).value.IsOf kind := by
  unfold readRows
  split
  · trivial
  · rfl
  · rfl
  · split
    · rfl
    · trivial
  · next noErrors noScopes noMembers _ =>
      cases kind <;> simp_all [TableRows.IsOf, TableKind.location?]

/-- A table with a key column and, if its rows are members, a heading, has a record for each row
with a key. -/
lemma keys_readRows (known : kind ≠ .unknown) (titled : ¬ (kind = .enumValues ∧ titles = [])) :
    (readRows naming columns shape titles line kind column).value ≠ .unknown
      ∧ (readRows naming columns shape titles line kind column).value.keys
        = (keyedRows shape column).map (·.1) := by
  unfold readRows
  split
  · exact absurd rfl known
  · refine ⟨nofun, ?_⟩
    rw [value_pure, TableRows.keys, map_map]
    rfl
  · refine ⟨nofun, ?_⟩
    rw [value_pure, TableRows.keys, map_map]
    rfl
  · split
    · refine ⟨nofun, ?_⟩
      rw [value_pure, TableRows.keys, map_map]
      rfl
    · next untitled => exact absurd ⟨rfl, head?_eq_none_iff.1 untitled⟩ titled
  · refine ⟨nofun, ?_⟩
    rw [value_bind, value_pure, value_mapM, TableRows.keys, map_map]
    refine map_congr_left ?_
    rintro ⟨key, row⟩ -
    rw [Function.comp_apply, name_parameterOf]

/-- The types of parameters may be unclear, but nothing else is found. -/
lemma hasCodes_readRows_of_titled (titled : ¬ (kind = .enumValues ∧ titles = [])) :
    HasCodes [.typeParseFallback] (readRows naming columns shape titles line kind column) := by
  have parameter (key : String) (row : List String) :
      HasCodes [.typeParseFallback] (parameterOf naming columns shape kind key row) := by
    simp only [parameterOf]
    split
    · exact .pure _
    · exact (TypeDescription.hasCodes_readIn ..).bind fun _ => .pure _
  unfold readRows
  split
  · exact .pure _
  · exact .pure _
  · exact .pure _
  · split
    · exact .pure _
    · next untitled => exact absurd ⟨rfl, head?_eq_none_iff.1 untitled⟩ titled
  · exact .bind (.mapM (fun _ => parameter ..) _) fun _ => .pure _

/-- All parameters in a table say where tables of its kind have them. -/
lemma facts_of_mem_readRows {parameters : List Parameter} {parameter : Parameter}
    (isRows : (readRows naming columns shape titles line kind column).value
      = .parameters parameters)
    (mem : parameter ∈ parameters) :
    some parameter.location = kind.location?
      ∧ (parameter.navigable = true ↔ kind = .navigationProperties) := by
  have known : kind ≠ .unknown := by
    rintro rfl
    cases isRows
  have fits : (TableRows.parameters parameters).IsOf kind := isRows ▸ isOf_readRows known
  obtain ⟨location, isLocation⟩ := Option.ne_none_iff_exists'.1 fits
  obtain ⟨key, row, -, rfl⟩ := exists_of_mem_readRows isRows mem
  rw [location_parameterOf, navigable_parameterOf, beq_iff_eq, isLocation]
  exact ⟨rfl, Iff.rfl⟩

/-! ## Whether a table is read -/

/-- What reading the rows of a table of a kind gives and finds. -/
structure IsReading (columns : ColumnWords) (shape : TableShape) (titles : List String)
    (kind : TableKind)
    (outcome : Audit TableRows) : Prop where
  isOf : outcome.value.IsOf kind
  unknown_iff : outcome.value = .unknown ↔ kind = .unknown ∨ IsUnreadable columns shape titles kind
  notes : (outcome.issues.filter (·.code == .unrecognizedTable)).map (·.severity)
    = if kind = .unknown then [.message] else []
  errors : (outcome.issues.filter (·.code == .tableParseError)).map (·.severity)
    = if kind ≠ .unknown ∧ IsUnreadable columns shape titles kind then [.error] else []
  keyed : outcome.value = .unknown ∨ ∃ column, shape.column? (keyWords columns kind) = some column
    ∧ outcome.value.keys
      = (shape.rows.map fun row => cellContent (cell row (some column))).filter (!·.isEmpty)
  facts : ∀ parameters, outcome.value = .parameters parameters → ∀ parameter ∈ parameters,
    some parameter.location = kind.location?
      ∧ (parameter.navigable = true ↔ kind = .navigationProperties)

/-- A table of an unknown kind is only noted. -/
lemma isReading_of_unknown (message : String) :
    IsReading columns shape titles .unknown ⟨.unknown, [.note .unrecognizedTable message]⟩ where
  isOf := trivial
  unknown_iff := by simp
  notes := rfl
  errors := by rw [if_neg fun both => both.1 rfl]; rfl
  keyed := .inl rfl
  facts := nofun

lemma isReading_of_isUnreadable (known : kind ≠ .unknown)
    (unreadable : IsUnreadable columns shape titles kind) (message : String) :
    IsReading columns shape titles kind ⟨.unknown, [.error .tableParseError message]⟩ where
  isOf := trivial
  unknown_iff := by simp [unreadable]
  notes := by rw [if_neg known]; rfl
  errors := by rw [if_pos ⟨known, unreadable⟩]; rfl
  keyed := .inl rfl
  facts := nofun

lemma isReading_readRows (known : kind ≠ .unknown)
    (readable : ¬ IsUnreadable columns shape titles kind)
    (isColumn : shape.column? (keyWords columns kind) = some column) :
    IsReading columns shape titles kind
      (readRows naming columns shape titles line kind column) := by
  have titled : ¬ (kind = .enumValues ∧ titles = []) := fun untitled => readable (.inr untitled)
  have kept : (readRows naming columns shape titles line kind column).value ≠ .unknown
      ∧ (readRows naming columns shape titles line kind column).value.keys
        = (keyedRows shape column).map (·.1) :=
    keys_readRows known titled
  have codes : HasCodes [.typeParseFallback]
      (readRows naming columns shape titles line kind column) :=
    hasCodes_readRows_of_titled titled
  exact {
    isOf := isOf_readRows known
    unknown_iff := by simp [kept.1, known, readable]
    notes := by rw [if_neg known, codes.filter_eq_nil (by decide)]; rfl
    errors := by rw [if_neg fun both => readable both.2, codes.filter_eq_nil (by decide)]; rfl
    keyed := .inr ⟨column, isColumn, kept.2.trans (map_fst_keyedRows shape column)⟩
    facts := fun _ isRows _ mem => facts_of_mem_readRows isRows mem }

/-- The rows of a table are read in one of three ways. -/
lemma isReading_rowsOf (naming : TypeNaming) (columns : ColumnWords) (shape : TableShape)
    (titles : List String) (line : ℕ) (kind : TableKind) :
    IsReading columns shape titles kind (rowsOf naming columns shape titles line kind) := by
  unfold rowsOf
  split
  · next unknown =>
      subst unknown
      exact isReading_of_unknown _
  · next known =>
      rw [keyColumn?_eq]
      split
      · next column isColumn =>
          by_cases unreadable : IsUnreadable columns shape titles kind
          · rcases unreadable with noColumn | ⟨rfl, rfl⟩
            · rw [column?_eq_none_iff.2 noColumn] at isColumn
              cases isColumn
            · exact isReading_of_isUnreadable known (.inr ⟨rfl, rfl⟩) _
          · exact isReading_readRows known unreadable isColumn
      · next noColumn =>
          exact isReading_of_isUnreadable known (.inl (column?_eq_none_iff.1 noColumn)) _

/-- **Every row with a key becomes a record,** in the order of the rows, if the table can be read at
all.  It cannot if its kind is unknown, which is noted, or if its key column is missing, or the
heading above members of an enumeration, which is an error.  All parameters have the location of the
kind, and those of navigation properties can be followed. -/
theorem named_rows_kept (naming : TypeNaming) (rules : TableRules) (shape : TableShape)
    (titles : List String) (line : ℕ) :
    let reading := read naming rules shape titles line
    let table := reading.value
    let kind := rules.kindOf shape titles
    table.kind = kind
      ∧ table.rows.IsOf kind
      ∧ (table.rows = .unknown ↔ kind = .unknown ∨ IsUnreadable rules.columns shape titles kind)
      ∧ (reading.issues.filter (·.code == .unrecognizedTable)).map (·.severity)
          = (if kind = .unknown then [.message] else [])
      ∧ (reading.issues.filter (·.code == .tableParseError)).map (·.severity)
          = (if kind ≠ .unknown ∧ IsUnreadable rules.columns shape titles kind then [.error]
            else [])
      ∧ (table.rows = .unknown ∨ ∃ column, shape.column? (keyWords rules.columns kind) = some column
          ∧ table.rows.keys
            = (shape.rows.map fun row => cellContent (cell row (some column))).filter (!·.isEmpty))
      ∧ ∀ parameter ∈ table.parameters,
          some parameter.location = kind.location?
            ∧ (parameter.navigable = true ↔ kind = .navigationProperties) := by
  intro reading table kind
  have read := isReading_rowsOf naming rules.columns shape titles line kind
  have issues : reading.issues = (rowsOf naming rules.columns shape titles line kind).issues :=
    append_nil _
  refine ⟨rfl, read.isOf, read.unknown_iff, issues ▸ read.notes, issues ▸ read.errors,
    read.keyed, ?_⟩
  intro parameter mem
  unfold parameters at mem
  split at mem
  · next parameters isRows => exact read.facts parameters isRows parameter mem
  · cases mem

/-- The second row has no name, and the third one no type. -/
def ownerTable : TableShape :=
  ⟨["Name", "Type"], [["owner", "user"], [" ", "String"], ["**tags**"]]⟩

theorem owners_kept :
    let table :=
      (read Settings.stock.naming Settings.stock.tables ownerTable ["Relationships"] 10).value
    table.rows ≠ .unknown ∧ table.parameters.map (·.name) = ["owner", "tags"]
      ∧ ∃ owner ∈ table.parameters,
        owner.name = "owner" ∧ some owner.location = some .jsonObject ∧ owner.navigable = true := by
  intro table
  have names : table.parameters.map (·.name) = ["owner", "tags"] := by decide +kernel
  have isKind : Settings.stock.tables.kindOf ownerTable ["Relationships"]
      = .navigationProperties := by decide +kernel
  obtain ⟨-, -, unknown, -, -, -, facts⟩ :=
    named_rows_kept Settings.stock.naming Settings.stock.tables ownerTable ["Relationships"] 10
  rw [isKind] at unknown facts
  have readable : ¬ IsUnreadable Settings.stock.tables.columns ownerTable ["Relationships"]
      .navigationProperties := by
    decide +kernel
  refine ⟨fun isUnknown => ?_, names, ?_⟩
  · exact (unknown.1 isUnknown).elim nofun readable
  · obtain ⟨owner, isOwner, isName⟩ := mem_map.1 (names ▸ mem_cons_self)
    have located := facts owner isOwner
    exact ⟨owner, isOwner, isName, located.1, located.2.2 rfl⟩

end Table

end DocAudit
