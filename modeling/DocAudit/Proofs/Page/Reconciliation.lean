import DocAudit.Proofs.Page.Codes

/-!
# The steps of reconciling a page

What every step leaves as it is.  Finding the namespace changes no row that goes to a resource or a
method (`Page.named`), tables of properties change the only resource, and tables of requests change
the methods; no step changes where anything stands (`Page.path_reconcile`,
`Page.map_file_reconcile`).
-/

namespace DocAudit

open List

namespace Page

variable {settings : Settings} {context : Option String} {page : Page}

/-! ## The namespace -/

/-- A table on a page with a namespace. -/
def named (space : Option String) (table : Table) : Table :=
  match space with
  | some space => nameMembers space table
  | none => table

section named

variable (space : Option String) (table : Table)

lemma named_eq : ∃ rows, named space table = { table with rows } ∧
    ({ table with rows } : Table).parameters = table.parameters
      ∧ ({ table with rows } : Table).errors = table.errors := by
  cases space with
  | none => exact ⟨table.rows, rfl, rfl, rfl⟩
  | some space =>
      simp only [named, nameMembers]
      split
      · next members isMembers => exact ⟨_, rfl, by simp [Table.parameters, isMembers],
          by simp [Table.errors, isMembers]⟩
      · exact ⟨table.rows, rfl, rfl, rfl⟩

@[simp] lemma kind_named : (named space table).kind = table.kind := by
  obtain ⟨rows, same, -⟩ := named_eq space table
  rw [same]

@[simp] lemma users_named : (named space table).users = table.users := by
  obtain ⟨rows, same, -⟩ := named_eq space table
  rw [same]

@[simp] lemma parameters_named : (named space table).parameters = table.parameters := by
  obtain ⟨rows, same, isSame, -⟩ := named_eq space table
  rw [same, isSame]

@[simp] lemma errors_named : (named space table).errors = table.errors := by
  obtain ⟨rows, same, -, isSame⟩ := named_eq space table
  rw [same, isSame]

end named

/-- The namespace of a page. -/
def spaceOf (settings : Settings) (page : Page) : Option String :=
  (page.metadata.bind (·.space)).filter (fun space => !(Text.trim space.toList).isEmpty)
    <|> page.resources.head?.bind (·.namespace?) <|> settings.naming.defaultNamespace

/-- Finding the namespace changes nothing but the namespace of the page and of members of
enumerations. -/
lemma value_resolveNamespace (settings : Settings) (page : Page) :
    (page.resolveNamespace settings).value
      = { page with
          space := spaceOf settings page
          tables := page.tables.map (named (spaceOf settings page)) } := by
  have unnamed : page.tables.map (named none) = page.tables := map_id _
  simp only [resolveNamespace, ← spaceOf.eq_1]
  cases spaceOf settings page with
  | none =>
      rw [unnamed]
      split
      · split <;> rfl
      · rfl
  | some space =>
      split
      · split <;> rfl
      · rfl

/-! ## Rows of properties -/

@[simp] lemma value_mergeRow (resource : Resource) (row : Parameter) : (mergeRow resource row).value
    = { resource with parameters := (row.mergeInto resource.parameters).value } := by
  simp only [mergeRow]
  split
  · rfl
  · split <;> rfl

lemma value_foldlM_mergeRow (rows : List Parameter) (resource : Resource) :
    (rows.foldlM mergeRow resource).value
      = { resource with parameters := (Parameter.mergeLists resource.parameters rows).value } := by
  induction rows generalizing resource with
  | nil => rfl
  | cons row rest ih =>
      rw [foldlM_cons, Audit.value_bind, ih, value_mergeRow]
      rfl

/-- Joining rows with a resource is joining them with its properties. -/
lemma value_mergeRows (resource : Resource) (rows : List Parameter) :
    (mergeRows resource rows).value
    = { resource with parameters := (Parameter.mergeLists resource.parameters rows).value } := by
  rw [← value_foldlM_mergeRow]
  simp only [mergeRows, Audit.value_bind]
  split <;> rfl

/-! ## All steps -/

/-- The page that tables of properties are joined with. -/
abbrev spaced (settings : Settings) (page : Page) : Page :=
  (page.resolveNamespace settings).value

/-- The page that tables of requests are joined with. -/
abbrev propertied (settings : Settings) (context : Option String) (page : Page) : Page :=
  ((spaced settings page).mergeResourceTables context).value

lemma value_reconcile : (page.reconcile settings context).value
    = ((propertied settings context page).mergeMethodTables context).value := rfl

/-- The findings of all steps, one after the other. -/
lemma issues_reconcile : (page.reconcile settings context).issues
    = (page.resolveNamespace settings).issues
      ++ ((spaced settings page).mergeResourceTables context).issues
      ++ ((propertied settings context page).mergeMethodTables context).issues
      ++ (page.reconcile settings context).value.checkEnumerations.issues
      ++ ((page.reconcile settings context).value.tables.forM reportUnused).issues := by
  simp only [reconcile, Audit.issues_bind, Audit.issues_pure, append_nil, append_assoc]
  rfl

section codes

variable {code : IssueCode}

/-- The findings behind those of tables have other codes. -/
lemma filter_issues_behind_tables (absent : code ∉ enumerationCodes ++ [.unusedTable])
    (page : Page) :
    (page.checkEnumerations.issues ++ (page.tables.forM reportUnused).issues).filter
      (·.code == code)
      = [] := by
  rw [mem_append, not_or] at absent
  have unused : Audit.HasCodes [.unusedTable] (page.tables.forM reportUnused) :=
    .forM fun table _ => hasCodes_reportUnused table
  rw [filter_append, (hasCodes_checkEnumerations page).filter_eq_nil absent.1,
    unused.filter_eq_nil absent.2, append_nil]

/-- The findings with a code that only tables of properties give. -/
lemma filter_issues_reconcile_of_property
    (absent : code ∉ [.namespaceMismatch] ++ methodCodes ++ (enumerationCodes ++ [.unusedTable])) :
    (page.reconcile settings context).issues.filter (·.code == code)
      = ((spaced settings page).mergeResourceTables context).issues.filter (·.code == code) := by
  rw [mem_append, mem_append, not_or, not_or] at absent
  obtain ⟨⟨noSpace, noMethod⟩, noneBehind⟩ := absent
  rw [issues_reconcile, append_assoc, filter_append, filter_issues_behind_tables noneBehind,
    filter_append, filter_append, (hasCodes_resolveNamespace ..).filter_eq_nil noSpace,
    (hasCodes_mergeMethodTables ..).filter_eq_nil noMethod, nil_append, append_nil, append_nil]

/-- The findings with a code that only tables of requests give. -/
lemma filter_issues_reconcile_of_method
    (absent : code ∉ [.namespaceMismatch] ++ propertyCodes
      ++ (enumerationCodes ++ [.unusedTable])) :
    (page.reconcile settings context).issues.filter (·.code == code)
      = ((propertied settings context page).mergeMethodTables context).issues.filter
        (·.code == code) := by
  rw [mem_append, mem_append, not_or, not_or] at absent
  obtain ⟨⟨noSpace, noProperty⟩, noneBehind⟩ := absent
  rw [issues_reconcile, append_assoc, filter_append, filter_issues_behind_tables noneBehind,
    filter_append, filter_append, (hasCodes_resolveNamespace ..).filter_eq_nil noSpace,
    (hasCodes_mergeResourceTables ..).filter_eq_nil noProperty, nil_append, nil_append, append_nil]

/-- The findings with a code that only enumerations give. -/
lemma filter_issues_reconcile_of_enumeration
    (absent : code ∉ [.namespaceMismatch] ++ propertyCodes ++ methodCodes ++ [.unusedTable]) :
    (page.reconcile settings context).issues.filter (·.code == code)
      = (page.reconcile settings context).value.checkEnumerations.issues.filter
        (·.code == code) := by
  rw [mem_append, mem_append, mem_append, not_or, not_or, not_or] at absent
  obtain ⟨⟨⟨noSpace, noProperty⟩, noMethod⟩, notUnused⟩ := absent
  have unused : Audit.HasCodes [.unusedTable]
      ((page.reconcile settings context).value.tables.forM reportUnused) :=
    .forM fun table _ => hasCodes_reportUnused table
  rw [issues_reconcile, filter_append, filter_append, filter_append, filter_append,
    (hasCodes_resolveNamespace ..).filter_eq_nil noSpace,
    (hasCodes_mergeResourceTables ..).filter_eq_nil noProperty,
    (hasCodes_mergeMethodTables ..).filter_eq_nil noMethod, unused.filter_eq_nil notUnused,
    nil_append, nil_append, nil_append, append_nil]

end codes

/-! ## Where things stand -/

/-- Tables of properties change resources and tables only, and leave resources where they stand. -/
lemma exists_mergeResourceTables_eq (context : Option String) (page : Page) :
    ∃ resources tables, (page.mergeResourceTables context).value = { page with resources, tables }
      ∧ resources.map (·.file) = page.resources.map (·.file) := by
  simp only [mergeResourceTables]
  split
  · exact ⟨_, _, rfl, rfl⟩
  · split
    · exact ⟨_, _, rfl, rfl⟩
    · next resource only =>
        refine ⟨_, _, rfl, ?_⟩
        rw [only, map_singleton, map_singleton, Audit.value_within, value_mergeRows]
    · exact ⟨_, _, rfl, rfl⟩

/-- Tables of requests change methods and tables only. -/
lemma exists_mergeMethodTables_eq (context : Option String) (page : Page) :
    ∃ methods tables, (page.mergeMethodTables context).value = { page with methods, tables } := by
  simp only [mergeMethodTables]
  split
  · exact ⟨_, _, rfl⟩
  · split
    · exact ⟨_, _, rfl⟩
    · exact ⟨_, _, rfl⟩

/-- Reconciling a page changes what the page documents, but neither its path nor its headings. -/
lemma exists_reconcile_eq (settings : Settings) (context : Option String) (page : Page) :
    ∃ space resources methods tables,
      (page.reconcile settings context).value
        = { page with space, resources, methods, tables } := by
  obtain ⟨resources, tables, joined, -⟩ :=
    exists_mergeResourceTables_eq context (page.spaced settings)
  obtain ⟨methods, others, applied⟩ :=
    exists_mergeMethodTables_eq context (page.propertied settings context)
  rw [value_reconcile, applied, propertied, joined, Page.spaced, value_resolveNamespace]
  exact ⟨_, _, _, _, rfl⟩

lemma path_reconcile : (page.reconcile settings context).value.path = page.path := by
  obtain ⟨space, resources, methods, tables, reconciled⟩ :=
    exists_reconcile_eq settings context page
  rw [reconciled]

lemma map_file_reconcile : (page.reconcile settings context).value.resources.map (·.file)
    = page.resources.map (·.file) := by
  obtain ⟨resources, tables, joined, same⟩ :=
    exists_mergeResourceTables_eq context (page.spaced settings)
  obtain ⟨methods, others, applied⟩ :=
    exists_mergeMethodTables_eq context (page.propertied settings context)
  rw [value_reconcile, applied, propertied, joined, same, Page.spaced, value_resolveNamespace]

end Page

end DocAudit
