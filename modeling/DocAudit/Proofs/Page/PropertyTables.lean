import DocAudit.Proofs.Page.Reading
import DocAudit.Proofs.Page.Reconciliation
import DocAudit.Proofs.Parameter

/-!
# Tables of properties

What the rows of the tables of properties do to the only resource of a page, and what is found about
them.  Row by row, the resource grows by the rows with new names, and a row is found to be missing
from the example only when its name is new.  So the rows that are found are the first ones of their
names (`Page.filter_additional_foldlM`), and joining them is joining two lists of parameters
(`Page.property_tables_reconciled`).
-/

namespace DocAudit

open List Audit

/-- Whether a resource may have a property that its example does not show. -/
def Resource.MayHave (resource : Resource) (name : String) : Prop :=
  resource.isOpen = true ∧ name ∈ resource.optionalProperties

instance (resource : Resource) (name : String) : Decidable (resource.MayHave name) :=
  inferInstanceAs (Decidable (_ ∧ _))

namespace Resource

variable {resource : Resource} {rows : List Parameter} {row : Parameter} {name : String}

/-- The first rows of names that neither the example shows nor the resource may have. -/
def additional (resource : Resource) (rows : List Parameter) : List Parameter :=
  (Parameter.newcomers (resource.parameters.map (·.name)) rows).filter (¬ resource.MayHave ·.name)

lemma additional_sublist : resource.additional rows <+ rows :=
  filter_sublist.trans (Parameter.newcomers_sublist _ rows)

lemma nodup_map_name_additional : ((resource.additional rows).map (·.name)).Nodup :=
  (filter_sublist.map _).nodup (Parameter.nodup_map_name_newcomers _ rows)

lemma find?_of_mem_additional (mem : row ∈ resource.additional rows) :
    rows.find? (·.name == row.name) = some row :=
  Parameter.find?_of_mem_newcomers (mem_of_mem_filter mem)

lemma mem_map_name_additional : name ∈ (resource.additional rows).map (·.name) ↔
    name ∈ rows.map (·.name) ∧ name ∉ resource.parameters.map (·.name)
      ∧ ¬ resource.MayHave name := by
  have filtered : (resource.additional rows).map (·.name)
      = ((Parameter.newcomers (resource.parameters.map (·.name)) rows).map (·.name)).filter
          (¬ resource.MayHave ·) := by
    rw [additional, filter_map]
    rfl
  rw [filtered, mem_filter, Parameter.mem_map_name_newcomers, and_assoc, decide_eq_true_iff]

end Resource

namespace Page

variable {settings : Settings} {page : Page} {resource : Resource}

/-! ## Findings -/

/-- The finding about a row whose name the example does not show, at a resource with a source. -/
def additionalIssue (resource : Resource) (source : Option String) (row : Parameter) : Issue where
  severity :=
    if row.navigable ∨ row.name ∈ resource.navigationProperties then .message else .warning
  code := .additionalPropertyDetected
  source := source
  message := s!"Property '{row.name}' is documented but missing from the example"
  pages := []

/-- The finding about a property of the example that no row is about. -/
def undocumentedIssue (source : Option String) (name : String) : Issue where
  severity := .warning
  code := .propertyMissingFromTable
  source := source
  message := s!"Property '{name}' appears in the example but in no property table"
  pages := []

/-! ## One row -/

/-- A row is found if its name is new, unless the resource may have the property. -/
lemma filter_additional_mergeRow (resource : Resource) (row : Parameter) :
    (mergeRow resource row).issues.filter (·.code == .additionalPropertyDetected)
      = if row.name ∈ resource.parameters.map (·.name) ∨ resource.MayHave row.name then []
        else [additionalIssue resource none row] := by
  have silent : (row.mergeInto resource.parameters).issues.filter
      (·.code == .additionalPropertyDetected) = [] :=
    (hasCodes_mergeInto row resource.parameters).filter_eq_nil (by decide)
  have accepted : (resource.parameters.any (·.name == row.name)
      || (resource.isOpen && resource.isOptional row.name)) = true ↔
      row.name ∈ resource.parameters.map (·.name) ∨ resource.MayHave row.name := by
    simp [Resource.MayHave, Resource.isOptional]
  have navigates : (row.navigable || resource.navigationProperties.contains row.name) = true ↔
      row.navigable = true ∨ row.name ∈ resource.navigationProperties := by
    simp
  simp only [mergeRow, accepted, navigates]
  split
  · simp [silent]
  · split
    · next marked =>
        rw [additionalIssue, if_pos marked]
        simp [silent, report, Issue.note]
    · next unmarked =>
        rw [additionalIssue, if_neg unmarked]
        simp [silent, report, warning, Issue.warning]

/-! ## All rows -/

/-- The rows that are found are the first ones of names that the example does not show. -/
lemma filter_additional_foldlM (rows : List Parameter) (resource : Resource) :
    (rows.foldlM mergeRow resource).issues.filter (·.code == .additionalPropertyDetected)
      = (resource.additional rows).map (additionalIssue resource none) := by
  induction rows generalizing resource with
  | nil => rfl
  | cons row rest ih =>
      have later := ih (mergeRow resource row).value
      rw [value_mergeRow, Resource.additional, Parameter.map_name_mergeInto] at later
      rw [foldlM_cons, issues_bind, filter_append, filter_additional_mergeRow, value_mergeRow,
        later, Resource.additional]
      by_cases old : row.name ∈ resource.parameters.map (·.name)
      · rw [if_pos (.inl old), if_pos old, Parameter.newcomers_cons_of_mem old]
        rfl
      · rw [if_neg old, Parameter.newcomers_cons_of_not_mem old]
        by_cases accepted : resource.MayHave row.name
        · rw [if_pos (.inr accepted), filter_cons_of_neg (by simpa using accepted)]
          rfl
        · rw [if_neg (by simp [old, accepted]), filter_cons_of_pos (by simpa using accepted)]
          rfl

lemma filter_additional_mergeRows (rows : List Parameter) (resource : Resource) :
    (mergeRows resource rows).issues.filter (·.code == .additionalPropertyDetected)
      = (resource.additional rows).map (additionalIssue resource none) := by
  have silent (parameters : List Parameter) :
      (parameters.forM (reportUndocumented rows)).issues.filter
      (·.code == .additionalPropertyDetected) = [] :=
    (HasCodes.forM fun parameter _ =>
      hasCodes_reportUndocumented rows parameter).filter_eq_nil (by decide)
  rw [← filter_additional_foldlM]
  simp only [mergeRows, issues_bind, filter_append]
  split
  · exact append_nil _
  · rw [issues_bind, filter_append, silent]
    exact append_nil _

/-- A property is found if no row has its name. -/
lemma issues_reportUndocumented (rows : List Parameter) (parameter : Parameter) :
    (reportUndocumented rows parameter).issues
      = if parameter.name ∈ rows.map (·.name) then []
        else [undocumentedIssue none parameter.name] := by
  have listed : rows.any (·.name == parameter.name) = true ↔
      parameter.name ∈ rows.map (·.name) := by
    simp
  simp only [reportUndocumented, listed]
  split <;> rfl

lemma issues_forM_reportUndocumented (rows parameters : List Parameter) :
    (parameters.forM (reportUndocumented rows)).issues
      = ((parameters.map (·.name)).filter (· ∉ rows.map (·.name))).map
        (undocumentedIssue none) := by
  rw [issues_forM]
  induction parameters with
  | nil => rfl
  | cons parameter rest ih =>
      rw [flatMap_cons, ih, map_cons, issues_reportUndocumented]
      by_cases documented : parameter.name ∈ rows.map (·.name)
      · rw [if_pos documented, filter_cons_of_neg (by simpa using documented), nil_append]
      · rw [if_neg documented, filter_cons_of_pos (by simpa using documented), map_cons,
          singleton_append]

/-- The names that rows have added are names of rows, so it is the names of the example that are
found to be without rows. -/
lemma filter_undocumented_mergeRows (rows : List Parameter) (resource : Resource) :
    (mergeRows resource rows).issues.filter (·.code == .propertyMissingFromTable)
      = if resource.isTruncated then []
        else ((resource.parameters.map (·.name)).filter (· ∉ rows.map (·.name))).map
          (undocumentedIssue none) := by
  have silent : (rows.foldlM mergeRow resource).issues.filter
      (·.code == .propertyMissingFromTable) = [] :=
    (HasCodes.foldlM hasCodes_mergeRow resource rows).filter_eq_nil (by decide)
  have noneAdded :
      ((Parameter.newcomers (resource.parameters.map (·.name)) rows).map (·.name)).filter
      (· ∉ rows.map (·.name)) = [] := by
    refine filter_eq_nil_iff.2 fun name added => ?_
    simpa using (Parameter.mem_map_name_newcomers.1 added).1
  simp only [mergeRows, issues_bind, filter_append, silent, nil_append, value_foldlM_mergeRow]
  by_cases truncated : resource.isTruncated
  · simp [truncated]
  · simp only [truncated, Bool.false_eq_true, if_false, issues_bind, issues_forM_reportUndocumented,
      Parameter.map_name_mergeLists, filter_append, noneAdded, append_nil, issues_pure]
    rw [filter_eq_self]
    exact forall_mem_map.2 fun _ _ => rfl

/-! ## The page -/

/-- The rows of all tables of properties. -/
def propertyRows (page : Page) : List Parameter :=
  (page.tables.filter (·.kind.isOfProperties)).flatMap (·.parameters)

/-- The only resource of a page takes the rows of all tables of properties. -/
lemma mergeResourceTables_of_singleton (context : Option String)
    (only : page.resources = [resource]) (tabled : page.tables.any (·.kind.isOfProperties) = true) :
    (page.mergeResourceTables context).value.resources
      = [(mergeRows resource page.propertyRows).value]
      ∧ (page.mergeResourceTables context).issues = ((mergeRows resource page.propertyRows).within
          (some (IssueLog.nested context resource.name))).issues := by
  simp only [mergeResourceTables, tabled, only]
  exact ⟨rfl, append_nil _⟩

lemma propertyRows_spaced : (spaced settings page).propertyRows = page.propertyRows := by
  simp [propertyRows, value_resolveNamespace, filter_map, flatMap_map, Function.comp_def]

lemma any_isOfProperties_spaced : (spaced settings page).tables.any (·.kind.isOfProperties)
    = page.tables.any (·.kind.isOfProperties) := by
  simp [value_resolveNamespace, Function.comp_def]

/-- The rows that are joined with the properties of resources: those of tables of properties, if
there is only one resource. -/
def joinedRows (page : Page) : List Parameter :=
  if page.resources.length = 1 then page.propertyRows else []

lemma joinedRows_of_singleton (only : page.resources = [resource]) :
    page.joinedRows = page.propertyRows := by
  rw [joinedRows, only, if_pos length_singleton]

lemma joinedRows_subset : page.joinedRows ⊆ page.propertyRows := by
  unfold joinedRows
  split
  · exact Subset.refl _
  · exact nil_subset _

/-- Tables of properties join their rows with the properties of resources, and change nothing else
about them. -/
lemma resources_mergeResourceTables (context : Option String) (page : Page) :
    (page.mergeResourceTables context).value.resources = page.resources.map fun resource =>
      { resource with parameters :=
        (Parameter.mergeLists resource.parameters page.joinedRows).value } := by
  have unjoined (noRows : page.joinedRows = []) : page.resources = page.resources.map
      fun resource =>
      { resource with parameters :=
        (Parameter.mergeLists resource.parameters page.joinedRows).value } := by
    rw [noRows]
    exact (map_id _).symm
  simp only [mergeResourceTables]
  split
  · next untabled =>
      have noTables : page.tables.filter (·.kind.isOfProperties) = [] := by
        simpa using untabled
      refine unjoined ?_
      rw [joinedRows, propertyRows, noTables, flatMap_nil, ite_self]
  · split
    · next unresourced => exact unresourced ▸ rfl
    · next resource only =>
        rw [only, map_singleton, joinedRows_of_singleton only, value_bind, value_within,
          value_mergeRows]
        rfl
    · next _ notOne =>
        refine unjoined ?_
        rw [joinedRows, if_neg]
        intro one
        obtain ⟨resource, only⟩ := length_eq_one_iff.1 one
        exact notOne resource only

lemma resources_reconcile (settings : Settings) (context : Option String) (page : Page) :
    (page.reconcile settings context).value.resources = page.resources.map fun resource =>
      { resource with parameters :=
        (Parameter.mergeLists resource.parameters page.joinedRows).value } := by
  obtain ⟨methods, tables, applied⟩ :=
    exists_mergeMethodTables_eq context (page.propertied settings context)
  have same : (spaced settings page).resources = page.resources := by
    rw [spaced, value_resolveNamespace]
  have rows : (spaced settings page).joinedRows = page.joinedRows := by
    rw [joinedRows, joinedRows, same, propertyRows_spaced]
  rw [value_reconcile, applied, ← same, ← rows]
  exact resources_mergeResourceTables context _

/-! ## What is reconciled -/

/-- **Tables of properties are reconciled with the example,** if the page has one resource and such
a table.

* The resource gets the rows of all tables in order, joined with the properties that its example
  shows.
* Unless the example is truncated, a finding is made for every property of it that no row names.
* A finding is made for every name of rows that the example does not show, at the first row of the
  name, unless the resource is open and lists the name as optional.  It is a note if this row or the
  resource says that the property leads to other resources, and a warning otherwise. -/
theorem property_tables_reconciled (settings : Settings) (context : Option String) (path : String)
    (blocks : List Block) (links : List Markdown.Link)
    (one : (Page.scan settings path blocks).value.resources.length = 1)
    (tabled : (Page.scan settings path blocks).value.tables.any (·.kind.isOfProperties) = true) :
    let page := { (Page.scan settings path blocks).value with links }
    let rows := page.propertyRows
    let reconciled := page.reconcile settings context
    ∃ shown : Resource, page.resources = [shown] ∧ (shown.parameters.map (·.name)).Nodup
      ∧ reconciled.value.resources
          = [{ shown with parameters := (Parameter.mergeLists shown.parameters rows).value }]
      ∧ reconciled.issues.filter (·.code == .propertyMissingFromTable)
          = (if shown.isTruncated then []
            else ((shown.parameters.map (·.name)).filter (· ∉ rows.map (·.name))).map
              (undocumentedIssue (some (IssueLog.nested context shown.name))))
      ∧ ∃ additional, additional <+ rows ∧ (additional.map (·.name)).Nodup
          ∧ (∀ row ∈ additional, rows.find? (·.name == row.name) = some row)
          ∧ (∀ name, name ∈ additional.map (·.name) ↔
              name ∈ rows.map (·.name) ∧ name ∉ shown.parameters.map (·.name)
                ∧ ¬ shown.MayHave name)
          ∧ reconciled.issues.filter (·.code == .additionalPropertyDetected)
              = additional.map
                (additionalIssue shown (some (IssueLog.nested context shown.name))) := by
  intro page rows reconciled
  obtain ⟨shown, only⟩ : ∃ shown, page.resources = [shown] := length_eq_one_iff.1 one
  have distinct : (shown.parameters.map (·.name)).Nodup :=
    (isAsRead_scan settings path blocks).distinct shown (only ▸ mem_singleton_self shown)
  have onlySpaced : (spaced settings page).resources = [shown] := by
    rw [spaced, value_resolveNamespace, only]
  obtain ⟨joined, found⟩ := mergeResourceTables_of_singleton context onlySpaced
    (any_isOfProperties_spaced.trans tabled)
  rw [propertyRows_spaced] at joined found
  refine ⟨shown, only, distinct, ?_, ?_, ?_⟩
  · obtain ⟨methods, tables, applied⟩ :=
      exists_mergeMethodTables_eq context (page.propertied settings context)
    rw [value_reconcile, applied, propertied, joined, value_mergeRows]
  · rw [filter_issues_reconcile_of_property (by decide), found, issues_within,
      Issue.filter_map_within, filter_undocumented_mergeRows]
    split
    · rfl
    · rw [map_map]
      rfl
  · refine ⟨shown.additional rows, Resource.additional_sublist, Resource.nodup_map_name_additional,
      fun row => Resource.find?_of_mem_additional, fun name => Resource.mem_map_name_additional, ?_⟩
    rw [filter_issues_reconcile_of_property (by decide), found, issues_within,
      Issue.filter_map_within, filter_additional_mergeRows, map_map]
    rfl

/-- A resource and two tables of properties, where one name has two rows. -/
def itemBlocks : List Block :=
  [⟨.comment, "<!-- \x7b \"blockType\": \"resource\", \"@odata.type\": \"foo.item\" \x7d -->",
      1, none⟩,
   ⟨.code, "\x7b \"id\": \"x\", \"size\": 1 \x7d", 2, some "json"⟩,
   ⟨.table ⟨["Property", "Type"], [["id", "String"], ["age", "Int32"]]⟩, "", 7, none⟩,
   ⟨.table ⟨["Property", "Type"], [["age", "String"]]⟩, "", 12, none⟩]

/-- The rows of both tables are joined with the example, and the property is found that has no
row. -/
theorem item_reconciled :
    let page := { (Page.scan .stock "item.md" itemBlocks).value with links := [] }
    let reconciled := page.reconcile .stock (some "item.md")
    page.resources.length = 1 ∧ page.tables.any (·.kind.isOfProperties) = true
      ∧ reconciled.value.resources.map (·.parameters.map (·.name)) = [["id", "size", "age"]]
      ∧ reconciled.issues.filter (·.code == .propertyMissingFromTable)
          = [undocumentedIssue (some "item.md > foo.item") "size"] := by
  intro page reconciled
  have read : page.tables.any (·.kind.isOfProperties) = true
      ∧ page.resources.map (fun shown => (shown.name, shown.isTruncated,
          (shown.parameters.map (·.name)).filter (· ∉ page.propertyRows.map (·.name)),
          (Parameter.mergeLists shown.parameters page.propertyRows).value.map (·.name)))
        = [("foo.item", false, ["size"], ["id", "size", "age"])] := by
    decide +kernel
  obtain ⟨tabled, shows⟩ := read
  have one : page.resources.length = 1 := by
    rw [← length_map, shows, length_singleton]
  obtain ⟨shown, only, -, joined, undocumented, -⟩ :=
    property_tables_reconciled .stock (some "item.md") "item.md" itemBlocks [] one tabled
  rw [only, map_singleton, singleton_inj, Prod.mk.injEq, Prod.mk.injEq, Prod.mk.injEq] at shows
  obtain ⟨name, untruncated, missing, names⟩ := shows
  refine ⟨one, tabled, ?_, ?_⟩
  · rw [joined, map_singleton, names]
  · rw [undocumented, untruncated, missing, name]
    rfl

end Page

end DocAudit
