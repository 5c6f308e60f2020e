import DocAudit.Proofs.Page.TableUse

/-!
# What reconciling keeps of lists of parameters

Reconciling a page changes its lists of parameters by joining them with rows of its tables, and in
no other way.  A property of lists that joining with the rows keeps therefore holds of all lists of
a reconciled page, if it held before (`Page.AllLists.reconcile`).
-/

namespace DocAudit

open List Audit

namespace Page

/-- All lists of parameters of resources and requests on a page are good, and so are the rows of its
tables. -/
structure AllLists (Good : List Parameter → Prop) (GoodRow : Parameter → Prop)
    (page : Page) : Prop where
  properties : ∀ resource ∈ page.resources, Good resource.parameters
  parameters : ∀ method ∈ page.methods, Good method.parameters
  bodyParameters : ∀ method ∈ page.methods, Good method.bodyParameters
  rows : ∀ table ∈ page.tables, ∀ row ∈ table.parameters, GoodRow row

variable {settings : Settings} {path : String} {blocks : List Block} {page : Page}
  {Good : List Parameter → Prop} {GoodRow : Parameter → Prop}

/-! ## Pages as they are read -/

/-- Lists on a page that was scanned are those that an example shows or a table has, or they are
empty. -/
lemma allLists_scan (goodNil : Good [])
    (ofExample : ∀ block ∈ blocks, ∀ metadata origin resource,
      (Resource.ofExample settings.naming metadata block.content origin).value = some resource →
        Good resource.parameters)
    (ofTable : ∀ block ∈ blocks, ∀ shape, block.kind = .table shape → ∀ titles, ∀ row ∈
      (Table.read settings.naming settings.tables shape titles block.line).value.parameters,
        GoodRow row) :
    (Page.scan settings path blocks).value.AllLists Good GoodRow where
  properties := by
    intro resource mem
    obtain ⟨block, isBlock, -, metadata, origin, read⟩ :=
      (isReadFrom_scan settings path blocks).resources resource mem
    exact ofExample block isBlock metadata origin resource read
  parameters := by
    intro method mem
    rwa [((isAsRead_scan settings path blocks).bare method mem).parameters]
  bodyParameters := by
    intro method mem
    rwa [((isAsRead_scan settings path blocks).bare method mem).bodyParameters]
  rows := by
    intro table mem
    obtain ⟨block, isBlock, shape, isTable, titles, rfl⟩ :=
      (isReadFrom_scan settings path blocks).tables table mem
    exact ofTable block isBlock shape isTable titles

/-! ## Reconciling -/

lemma Marks.parameters_eq {takes : TableKind → Prop} {change : Table → Table}
    (h : Marks takes change)
    (table : Table) : (change table).parameters = table.parameters := by
  obtain ⟨users, same, -, -⟩ := h table
  rw [same]
  rfl

/-- Tables of requests give methods the rows of some tables of the page. -/
lemma exists_methods_mergeMethodTables (context : Option String) (page : Page) :
    ∃ tables, tables ⊆ page.tables
      ∧ (page.mergeMethodTables context).value.methods
        = page.methods.map (Method.withTables tables) := by
  have untouched : page.methods = page.methods.map (Method.withTables []) := by
    rw [Method.withTables_nil, map_id]
  simp only [mergeMethodTables]
  split
  · exact ⟨[], nil_subset _, untouched⟩
  · split
    · exact ⟨[], nil_subset _, untouched⟩
    · exact ⟨_, filter_subset_self page.tables, value_foldlM_applyToAll ..⟩

namespace AllLists

variable (h : page.AllLists Good GoodRow)
include h

lemma rows_map {change : Table → Table}
    (same : ∀ table, (change table).parameters = table.parameters) :
    ∀ table ∈ page.tables.map change, ∀ row ∈ table.parameters, GoodRow row := by
  refine forall_mem_map.2 fun table mem => ?_
  rw [same]
  exact h.rows table mem

lemma withLinks (links : List Markdown.Link) : ({ page with links } : Page).AllLists Good GoodRow :=
  { h with }

lemma spaced (settings : Settings) : (page.spaced settings).AllLists Good GoodRow := by
  rw [Page.spaced, value_resolveNamespace]
  exact ⟨h.properties, h.parameters, h.bodyParameters, h.rows_map (parameters_named _)⟩

section

variable (joins : ∀ {known rows : List Parameter}, Good known → (∀ row ∈ rows, GoodRow row) →
  Good (Parameter.mergeLists known rows).value)
include joins

lemma mergeResourceTables (context : Option String) :
    (page.mergeResourceTables context).value.AllLists Good GoodRow := by
  obtain ⟨change, marks, tables⟩ := exists_marks_mergeResourceTables context page
  obtain ⟨resources, others, joined, -⟩ := exists_mergeResourceTables_eq context page
  have ofRows : ∀ row ∈ page.joinedRows, GoodRow row := by
    intro row mem
    obtain ⟨table, taken, isRow⟩ := mem_flatMap.1 (joinedRows_subset mem)
    exact h.rows table (mem_of_mem_filter taken) row isRow
  refine ⟨?_, ?_, ?_, tables ▸ h.rows_map marks.parameters_eq⟩
  · rw [resources_mergeResourceTables]
    exact forall_mem_map.2 fun resource mem => joins (h.properties resource mem) ofRows
  · rw [joined]
    exact h.parameters
  · rw [joined]
    exact h.bodyParameters

lemma mergeMethodTables (context : Option String) :
    (page.mergeMethodTables context).value.AllLists Good GoodRow := by
  obtain ⟨change, marks, tables⟩ := exists_marks_mergeMethodTables context page
  obtain ⟨methods, others, applied⟩ := exists_mergeMethodTables_eq context page
  obtain ⟨given, ofPage, withRows⟩ := exists_methods_mergeMethodTables context page
  have joined (takes : Table → Bool) {known : List Parameter} (good : Good known) :
      Good (Method.joinTables known (given.filter takes)) :=
    foldlRecOn _ _ good fun _ good table mem =>
      joins good (h.rows table (ofPage (mem_of_mem_filter mem)))
  refine ⟨?_, ?_, ?_, tables ▸ h.rows_map marks.parameters_eq⟩
  · rw [applied]
    exact h.properties
  · rw [withRows]
    exact forall_mem_map.2 fun method mem => joined _ (h.parameters method mem)
  · rw [withRows]
    exact forall_mem_map.2 fun method mem => joined _ (h.bodyParameters method mem)

/-- Reconciling a page keeps what joining lists with rows keeps. -/
lemma reconcile (settings : Settings) (context : Option String) :
    (page.reconcile settings context).value.AllLists Good GoodRow :=
  ((h.spaced settings).mergeResourceTables joins context).mergeMethodTables joins context

end

end AllLists

end Page

end DocAudit
