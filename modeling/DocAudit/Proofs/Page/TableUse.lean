import DocAudit.Proofs.Page.MethodTables
import DocAudit.Proofs.Page.PropertyTables

/-!
# Who takes the rows of tables

The rows of a table go to the only resource of a page or to all its methods, or nobody takes them.
A table gets users exactly if its page serves its kind (`Page.exists_tables_reconcile`), and then
its rows are found where they belong (`Page.keeps_of_serves`); a table without users is reported
once.  So no row is lost without a warning (`Page.rows_kept_or_reported`).
-/

namespace DocAudit

open List Audit

/-! ## Rows that fit the kind of a table -/

/-- Whether tables of a kind may have rows of a sort. -/
def TableRows.Fit (kind : TableKind) : TableRows → Prop
  | .parameters _ => kind.location? ≠ none
  | .errors _ => kind = .errorCodes
  | _ => True

namespace Table

variable {naming : TypeNaming} {table : Table}

lemma fit_readRows (columns : ColumnWords) (shape : TableShape) (titles : List String) (line : Nat)
    (kind : TableKind) (column : Nat) :
    (readRows naming columns shape titles line kind column).value.Fit kind := by
  unfold readRows
  split
  · trivial
  · rfl
  · trivial
  · split
    · trivial
    · trivial
  · next noUnknown noErrors noScopes noMembers =>
      cases kind <;> simp_all [TableRows.Fit, TableKind.location?]

lemma fit_read (rules : TableRules) (shape : TableShape) (titles : List String) (line : Nat) :
    (read naming rules shape titles line).value.rows.Fit
      (read naming rules shape titles line).value.kind := by
  simp only [read, value_bind, value_pure, rowsOf]
  split
  · trivial
  · split
    · exact fit_readRows ..
    · trivial

lemma parameters_eq_nil (fit : table.rows.Fit table.kind) (other : table.kind.location? = none) :
    table.parameters = [] := by
  unfold parameters
  split
  · next rows isRows =>
      rw [isRows] at fit
      exact absurd other fit
  · rfl

lemma errors_eq_nil (fit : table.rows.Fit table.kind) (other : table.kind ≠ .errorCodes) :
    table.errors = [] := by
  unfold errors
  split
  · next rows isRows =>
      rw [isRows] at fit
      exact absurd fit other
  · rfl

end Table

/-! ## Users -/

/-- Whether the rows of tables of a kind go to methods. -/
def TableKind.IsOfMethods (kind : TableKind) : Prop :=
  kind = .errorCodes ∨ kind.IsOfParameters ∨ kind = .requestBody

namespace Page

variable {settings : Settings} {context : Option String} {page : Page}

lemma isForMethods_iff {table : Table} : isForMethods table = true ↔ table.kind.IsOfMethods := by
  unfold isForMethods TableKind.IsOfMethods TableKind.IsOfParameters
  split <;> simp_all

/-- What marking tables of some kinds does: only they get users, and nothing else changes. -/
def Marks (takes : TableKind → Prop) (change : Table → Table) : Prop :=
  ∀ table, ∃ users, change table = { table with users }
    ∧ (takes table.kind → users ≠ []) ∧ (¬ takes table.kind → users = table.users)

namespace Marks

variable {takes more : TableKind → Prop} {change : Table → Table}

lemma id (never : ∀ kind, ¬ takes kind) : Marks takes id :=
  fun table => ⟨table.users, rfl, fun taken => absurd taken (never _), fun _ => rfl⟩

lemma comp {after : Table → Table} (h : Marks more after) (g : Marks takes change) :
    Marks (fun kind => takes kind ∨ more kind) (after ∘ change) := by
  intro table
  obtain ⟨users, same, marked, kept⟩ := g table
  obtain ⟨others, same', marked', kept'⟩ := h (change table)
  rw [same] at same' marked' kept'
  refine ⟨others, (congrArg after same).trans same', ?_, ?_⟩
  · rintro (taken | taken)
    · by_cases again : more table.kind
      · exact marked' again
      · exact kept' again ▸ marked taken
    · exact marked' taken
  · intro never
    rw [not_or] at never
    exact (kept' never.2).trans (kept never.1)

lemma congr (h : Marks takes change) (same : ∀ kind, takes kind ↔ more kind) :
    Marks more change := by
  rwa [← funext fun kind => propext (same kind)]

lemma markUser (test : Table → Bool) (isKind : ∀ table, test table = true ↔ takes table.kind)
    (user : String) :
    Marks takes (markUser test user) := by
  intro table
  unfold Page.markUser Table.addUser
  by_cases taken : test table
  · rw [if_pos taken]
    split
    · next known =>
        refine ⟨_, rfl, fun _ => ?_, fun never => absurd ((isKind table).1 taken) never⟩
        exact ne_nil_of_mem (by simpa using known)
    · exact ⟨_, rfl, fun _ => by simp, fun never => absurd ((isKind table).1 taken) never⟩
  · rw [if_neg taken]
    exact ⟨_, rfl, fun is => absurd ((isKind table).2 is) taken, fun _ => rfl⟩

/-- Tables of other kinds stay as they are. -/
lemma map_eq_self (h : Marks takes change) {tables : List Table}
    (never : ∀ table ∈ tables, ¬ takes table.kind) : tables.map change = tables := by
  refine (map_congr_left fun table mem => ?_).trans (map_id tables)
  obtain ⟨users, same, -, kept⟩ := h table
  rw [same, kept (never table mem)]
  rfl

/-- Marking tables for all methods one after the other. -/
lemma markAll (methods : List Method) : Marks (fun kind => methods ≠ [] ∧ kind.IsOfMethods)
    (fun table => methods.foldl (fun table method =>
      Page.markUser isForMethods method.identifier table)
      table) := by
  induction methods with
  | nil => exact Marks.id fun _ taken => taken.1 rfl
  | cons method rest ih =>
      have first : Marks (·.IsOfMethods) (Page.markUser isForMethods method.identifier) :=
        markUser isForMethods (fun _ => isForMethods_iff) _
      refine (ih.comp first).congr fun kind => ?_
      simp only [ne_eq, cons_ne_nil, not_false_eq_true, true_and, or_iff_left_iff_imp]
      exact And.right

end Marks

/-- Whether someone takes the rows of tables of a kind: the only resource of the page, or its
methods if it is clear which of them the tables are about. -/
def Serves (page : Page) (kind : TableKind) : Prop :=
  (kind.isOfProperties = true ∧ ∃ resource, page.resources = [resource])
    ∨ (kind.IsOfMethods ∧ page.methods ≠ [] ∧ ¬ page.IsUnclear)

lemma exists_marks_mergeResourceTables (context : Option String) (page : Page) :
    ∃ change, Marks (fun kind => kind.isOfProperties = true ∧ ∃ resource,
      page.resources = [resource]) change
      ∧ (page.mergeResourceTables context).value.tables = page.tables.map change := by
  by_cases one : ∃ resource, page.resources = [resource]
  · obtain ⟨resource, only⟩ := one
    have marks : Marks (fun kind => kind.isOfProperties = true ∧ ∃ resource,
        page.resources = [resource])
        (markUser (·.kind.isOfProperties) resource.name) :=
      .markUser _ (fun table => (and_iff_left ⟨resource, only⟩).symm) _
    refine ⟨_, marks, ?_⟩
    by_cases tabled : page.tables.any (·.kind.isOfProperties)
    · simp [mergeResourceTables, tabled, only]
    · have never : ∀ table ∈ page.tables, ¬ table.kind.isOfProperties = true := by
        simpa using tabled
      rw [marks.map_eq_self fun table mem taken => never table mem taken.1]
      simp [mergeResourceTables, tabled]
  · refine ⟨id, .id fun _ taken => one taken.2, ?_⟩
    rw [map_id]
    simp only [mergeResourceTables]
    split
    · rfl
    · split
      · rfl
      · next resource only => exact absurd ⟨resource, only⟩ one
      · rfl

lemma exists_marks_mergeMethodTables (context : Option String) (page : Page) :
    ∃ change, Marks (fun kind => kind.IsOfMethods ∧ page.methods ≠ [] ∧ ¬ page.IsUnclear) change
      ∧ (page.mergeMethodTables context).value.tables = page.tables.map change := by
  by_cases served : page.methods ≠ [] ∧ ¬ page.IsUnclear
  · obtain ⟨requested, clear⟩ := served
    have marks := (Marks.markAll page.methods).congr fun kind =>
      (and_comm (a := page.methods ≠ [])).trans
        (and_congr_right fun _ => (and_iff_left clear).symm)
    refine ⟨_, marks, ?_⟩
    by_cases tabled : page.tables.any isForMethods = true
    · rw [← isAmbiguous_iff, Bool.not_eq_true] at clear
      simp only [mergeMethodTables, isEmpty_or_isEmpty_eq_false tabled requested, clear]
      rfl
    · have never : ∀ table ∈ page.tables, ¬ table.kind.IsOfMethods := by
        simpa [isForMethods_iff] using tabled
      have noTables : page.tables.filter isForMethods = [] := by
        simpa using tabled
      rw [marks.map_eq_self fun table mem taken => never table mem taken.1]
      simp [mergeMethodTables, noTables]
  · refine ⟨id, .id fun _ taken => served taken.2, ?_⟩
    rw [map_id]
    by_cases idle : page.tables.any isForMethods = true ∧ page.methods ≠ []
    · obtain ⟨tabled, requested⟩ := idle
      have unclear : page.IsUnclear := by
        by_contra clear
        exact served ⟨requested, clear⟩
      rw [(mergeMethodTables_of_isUnclear context tabled requested unclear).1]
    · have nothing : ((page.tables.filter isForMethods).isEmpty || page.methods.isEmpty)
          = true := by
        by_contra isUsed
        refine idle ?_
        simpa using isUsed
      simp [mergeMethodTables, nothing]

/-- A table is read and then reconciled: its rows stay, and it has users exactly if it is served. -/
structure IsSettled (page : Page) (before after : Table) : Prop where
  kind : after.kind = before.kind
  title : after.title = before.title
  line : after.line = before.line
  parameters : after.parameters = before.parameters
  errors : after.errors = before.errors
  users : after.users ≠ [] ↔ page.Serves before.kind

lemma exists_tables_reconcile (settings : Settings) (context : Option String) (page : Page) :
    ∃ change, (page.reconcile settings context).value.tables = page.tables.map change
      ∧ ∀ table, table.users = [] → page.IsSettled table (change table) := by
  have resources : (spaced settings page).resources = page.resources := by
    rw [spaced, value_resolveNamespace]
  obtain ⟨first, marksFirst, tablesFirst⟩ :=
    exists_marks_mergeResourceTables context (spaced settings page)
  obtain ⟨second, marksSecond, tablesSecond⟩ :=
    exists_marks_mergeMethodTables context (propertied settings context page)
  rw [resources] at marksFirst
  rw [methods_propertied, isUnclear_propertied] at marksSecond
  have marks := marksSecond.comp marksFirst
  refine ⟨(second ∘ first) ∘ named (spaceOf settings page), ?_, ?_⟩
  · rw [value_reconcile, tablesSecond, propertied, tablesFirst, spaced, value_resolveNamespace,
      map_map, map_map, Function.comp_assoc]
  · intro table unused
    obtain ⟨rows, isNamed, sameParameters, sameErrors⟩ := named_eq (spaceOf settings page) table
    obtain ⟨users, same, taken, untaken⟩ := marks (named (spaceOf settings page) table)
    rw [isNamed] at same taken untaken
    rw [Function.comp_apply, isNamed, same]
    refine ⟨rfl, rfl, rfl, sameParameters, sameErrors, ?_, taken⟩
    intro used
    by_contra unserved
    exact used ((untaken unserved).trans unused)

/-! ## Where rows are found -/

/-- The rows of a table are there: its parameters by their names, and its errors as they are. -/
def HasRows (names : List String) (errors : List ErrorRow) (table : Table) : Prop :=
  (∀ row ∈ table.parameters, row.name ∈ names) ∧ ∀ error ∈ table.errors, error ∈ errors

/-- The parameters of a method that tables of a kind are about. -/
def namesFor (kind : TableKind) (method : Method) : List String :=
  (if kind = .requestBody then method.bodyParameters else method.parameters).map (·.name)

/-- A page has the rows of a table where they belong: those of a table of properties in its only
resource, and those of a table of requests in all its methods. -/
def Keeps (page : Page) (table : Table) : Prop :=
  (table.kind.isOfProperties = true ∧ ∃ resource, page.resources = [resource]
      ∧ HasRows (resource.parameters.map (·.name)) [] table)
    ∨ (table.kind.IsOfMethods ∧ page.methods ≠ []
      ∧ ∀ method ∈ page.methods, HasRows (namesFor table.kind method) method.errors table)

/-- The only resource of a page ends with the rows of all tables of properties. -/
lemma resources_reconcile_of_singleton {resource : Resource} (only : page.resources = [resource]) :
    (page.reconcile settings context).value.resources
      = [{ resource with
          parameters := (Parameter.mergeLists resource.parameters page.propertyRows).value }] := by
  rw [resources_reconcile, only, map_singleton, joinedRows_of_singleton only]

/-- A method with the rows of tables of requests has those of each of them. -/
lemma hasRows_withTables {tables : List Table} {table : Table} (mem : table ∈ tables)
    (fit : table.rows.Fit table.kind) (ofMethods : table.kind.IsOfMethods) (method : Method) :
    HasRows (namesFor table.kind (method.withTables tables))
      (method.withTables tables).errors table := by
  constructor
  · intro row isRow
    have joined (test : TableKind → Bool) (passes : test table.kind = true)
        (known : List Parameter) :
        row.name ∈ (Method.joinTables known (tables.filter (test ·.kind))).map (·.name) :=
      Method.mem_map_name_joinTables.2
        (.inr ⟨table, mem_filter.2 ⟨mem, passes⟩, mem_map_of_mem isRow⟩)
    rcases ofMethods with ofErrors | ofParameters | ofBody
    · rw [Table.parameters_eq_nil fit (by rw [ofErrors]; rfl)] at isRow
      cases isRow
    · have notBody : table.kind ≠ .requestBody := by
        rintro ofBody
        rw [ofBody] at ofParameters
        exact absurd ofParameters (by decide)
      rw [namesFor, if_neg notBody]
      exact joined (·.IsOfParameters) (decide_eq_true ofParameters) _
    · rw [namesFor, if_pos ofBody]
      exact joined (· = .requestBody) (decide_eq_true ofBody) _
  · intro error isError
    have ofErrors : table.kind = .errorCodes := by
      by_contra other
      rw [Table.errors_eq_nil fit other] at isError
      cases isError
    refine mem_append_right _ (mem_flatMap.2 ⟨table, ?_, isError⟩)
    simp [mem, ofErrors]

/-- The rows of a table that is served are kept. -/
lemma keeps_of_serves (settings : Settings) (context : Option String) {page : Page}
    {table after : Table} (mem : table ∈ page.tables) (fit : table.rows.Fit table.kind)
    (settled : page.IsSettled table after)
    (serves : page.Serves table.kind) : (page.reconcile settings context).value.Keeps after := by
  rcases serves with ⟨ofProperties, shown, only⟩ | ⟨ofMethods, requested, clear⟩
  · refine .inl ⟨settled.kind ▸ ofProperties, _, resources_reconcile_of_singleton only, ?_, ?_⟩
    · intro row isRow
      rw [settled.parameters] at isRow
      have isPropertyRow : row ∈ page.propertyRows :=
        mem_flatMap.2 ⟨table, mem_filter.2 ⟨mem, ofProperties⟩, isRow⟩
      exact Parameter.mem_map_name_mergeLists.2 (.inr (mem_map_of_mem isPropertyRow))
    · have noErrors : table.kind ≠ .errorCodes := by
        rintro ofErrors
        rw [ofErrors] at ofProperties
        cases ofProperties
      rw [settled.errors, Table.errors_eq_nil fit noErrors]
      exact forall_mem_nil _
  · have isFor : table ∈ page.tables.filter isForMethods :=
      mem_filter.2 ⟨mem, isForMethods_iff.2 ofMethods⟩
    have tabled : page.tables.any isForMethods = true :=
      any_eq_true.2 ⟨table, mem, isForMethods_iff.2 ofMethods⟩
    obtain ⟨applied, -⟩ := reconcile_of_not_isUnclear settings context tabled requested clear
    refine .inr ⟨settled.kind ▸ ofMethods, ?_, ?_⟩
    · rw [applied]
      simpa using requested
    · rw [applied]
      refine forall_mem_map.2 fun method _ => ?_
      have has := hasRows_withTables isFor fit ofMethods method
      rwa [HasRows, ← settled.parameters, ← settled.errors, ← settled.kind] at has

/-! ## What is reported -/

/-- The warning about a table whose rows nothing took. -/
def unusedIssue (table : Table) : Issue :=
  let heading := table.title.getD "(no heading)"
  .warning .unusedTable
    (s!"{table.kind.name} table under '{heading}' on line {table.line} was not merged into " ++
      "any resource or method")

/-- Whether nothing took the rows of a table, and it is not of a kind that nothing needs to take. -/
def IsLost (table : Table) : Prop :=
  table.kind ∉ [.authScopes, .enumValues, .responseHeaders] ∧ table.users = []

instance (table : Table) : Decidable (IsLost table) :=
  inferInstanceAs (Decidable (_ ∧ _))

lemma issues_forM_reportUnused (tables : List Table) :
    (tables.forM reportUnused).issues = (tables.filter (IsLost ·)).map unusedIssue := by
  have one (table : Table) : (reportUnused table).issues
      = if IsLost table then [unusedIssue table] else [] := by
    have lost : (needsUser table && !table.isUsed) = true ↔ IsLost table := by
      unfold needsUser Table.isUsed IsLost
      split <;> simp_all
    simp only [reportUnused, lost]
    split <;> rfl
  rw [issues_forM]
  induction tables with
  | nil => rfl
  | cons table rest ih =>
      rw [flatMap_cons, ih, one]
      by_cases lost : IsLost table <;> simp [lost]

lemma filter_unused_reconcile (settings : Settings) (context : Option String) (page : Page) :
    (page.reconcile settings context).issues.filter (·.code == .unusedTable)
      = ((page.reconcile settings context).value.tables.filter (IsLost ·)).map unusedIssue := by
  have all :
      (((page.reconcile settings context).value.tables.filter (IsLost ·)).map unusedIssue).filter
      (·.code == .unusedTable)
      = ((page.reconcile settings context).value.tables.filter (IsLost ·)).map unusedIssue :=
    filter_eq_self.2 (forall_mem_map.2 fun _ _ => rfl)
  rw [issues_reconcile, filter_append, filter_append, filter_append, filter_append,
    (hasCodes_resolveNamespace ..).filter_eq_nil (by decide),
    (hasCodes_mergeResourceTables ..).filter_eq_nil (by decide),
    (hasCodes_mergeMethodTables ..).filter_eq_nil (by decide),
    (hasCodes_checkEnumerations ..).filter_eq_nil (by decide), issues_forM_reportUnused, all]
  rfl

/-- **No row of a table is lost silently.**  A page that is reconciled has the tables that were
read, with the same rows.  Apart from tables that nothing needs to take, either a table has users,
and then its rows are where they belong, or it has none and is reported.  The warnings are those
about the tables without users, one for each of them in their order. -/
theorem rows_kept_or_reported (settings : Settings) (context : Option String) (path : String)
    (blocks : List Block) (links : List Markdown.Link) :
    let read := Page.scan settings path blocks
    let reconciled := { read.value with links }.reconcile settings context
    let tables := reconciled.value.tables
    let warnings := (read.issues ++ reconciled.issues).filter (·.code == .unusedTable)
    (tables.map fun table => (table.kind, table.title, table.parameters, table.errors, table.line))
        = (read.value.tables.map fun table =>
          (table.kind, table.title, table.parameters, table.errors, table.line))
      ∧ (∀ table ∈ tables, table.kind ∉ [.authScopes, .enumValues, .responseHeaders] →
          Xor (table.users ≠ [] ∧ reconciled.value.Keeps table)
            (table.users = [] ∧ unusedIssue table ∈ warnings))
      ∧ warnings = (tables.filter fun table =>
          table.kind ∉ [.authScopes, .enumValues, .responseHeaders]
            ∧ table.users = []).map unusedIssue := by
  intro read reconciled tables warnings
  have isRead : read.value.IsAsRead path := isAsRead_scan settings path blocks
  have isFrom : read.value.IsFrom settings := isFrom_scan settings path blocks
  have reported : warnings = (tables.filter (IsLost ·)).map unusedIssue := by
    have silent : read.issues.filter (·.code == .unusedTable) = [] :=
      (hasCodes_scan settings path blocks).filter_eq_nil (by decide)
    rw [← filter_unused_reconcile]
    exact (filter_append ..).trans (congrArg (· ++ _) silent)
  obtain ⟨change, changed, settled⟩ :=
    exists_tables_reconcile settings context { read.value with links }
  have changed : tables = read.value.tables.map change := changed
  refine ⟨?_, ?_, reported⟩
  · rw [changed, map_map]
    refine map_congr_left fun table mem => ?_
    have same := settled table (isRead.unused table mem)
    simp only [Function.comp_apply, same.kind, same.title, same.parameters, same.errors, same.line]
  · rw [changed]
    refine forall_mem_map.2 fun table mem watched => ?_
    have same := settled table (isRead.unused table mem)
    by_cases serves : Serves { read.value with links } table.kind
    · obtain ⟨shape, titles, line, isTable⟩ := isFrom.tables table mem
      have fit : table.rows.Fit table.kind := isTable ▸ Table.fit_read ..
      have used := same.users.2 serves
      exact .inl ⟨⟨used, keeps_of_serves settings context mem fit same serves⟩,
        fun lost => used lost.1⟩
    · have lost : (change table).users = [] := by
        by_contra used
        exact serves (same.users.1 used)
      refine .inr ⟨⟨lost, ?_⟩, fun kept => kept.1 lost⟩
      rw [reported, changed]
      exact mem_map_of_mem (mem_filter.2 ⟨mem_map_of_mem mem, decide_eq_true ⟨watched, lost⟩⟩)

end Page

end DocAudit
