import DocAudit.Proofs.Page.Reading
import DocAudit.Proofs.Page.Reconciliation
import DocAudit.Proofs.Parameter
import Mathlib.Data.List.Duplicate

/-!
# Tables of requests

What the rows of the tables of requests do to the methods of a page.  Going from table to table, and
in each table from method to method, comes to the same as giving all tables to each of the methods
(`Page.value_foldlM_applyToAll`).  This is done for all methods, or for none if it is unclear which
of them the tables are about (`Page.method_tables_applied`).
-/

namespace DocAudit

open List Audit

/-! ## One method -/

/-- Whether tables of a kind list parameters in the path, query or headers of requests. -/
def TableKind.IsOfParameters (kind : TableKind) : Prop :=
  kind = .pathParameters ∨ kind = .queryParameters ∨ kind = .headers

instance (kind : TableKind) : Decidable kind.IsOfParameters :=
  inferInstanceAs (Decidable (_ ∨ _))

namespace Method

/-- The parameters of some tables, one table after the other joined with known ones. -/
def joinTables (known : List Parameter) (tables : List Table) : List Parameter :=
  tables.foldl (fun known table => (Parameter.mergeLists known table.parameters).value) known

/-- A method with the rows of some tables. -/
def withTables (tables : List Table) (method : Method) : Method :=
  { method with
    errors := method.errors ++ (tables.filter (·.kind = .errorCodes)).flatMap (·.errors)
    parameters := joinTables method.parameters (tables.filter (·.kind.IsOfParameters))
    bodyParameters := joinTables method.bodyParameters (tables.filter (·.kind = .requestBody)) }

@[simp] lemma withTables_nil : withTables [] = id := by
  funext method
  simp [withTables, joinTables]

lemma withTables_cons (table : Table) (rest : List Table) (method : Method) :
    method.withTables (table :: rest) = (method.withTables [table]).withTables rest := by
  simp only [withTables, joinTables, ← singleton_append (l := rest), filter_append, flatMap_append,
    foldl_append, append_assoc]

/-- Joined tables have the names of all their rows. -/
lemma mem_map_name_joinTables {known : List Parameter} {tables : List Table} {name : String} :
    name ∈ (joinTables known tables).map (·.name) ↔
      name ∈ known.map (·.name) ∨ ∃ table ∈ tables, name ∈ table.parameters.map (·.name) := by
  induction tables generalizing known with
  | nil => simp [joinTables]
  | cons table rest ih =>
      have step : joinTables known (table :: rest)
          = joinTables (Parameter.mergeLists known table.parameters).value rest := rfl
      rw [step, ih, Parameter.mem_map_name_mergeLists, exists_mem_cons_iff, or_assoc]

lemma value_applyTable (table : Table) (method : Method) :
    (Page.applyTable table method).value = method.withTables [table] := by
  unfold Page.applyTable
  split <;> simp_all [withTables, joinTables, TableKind.IsOfParameters]

/-- Methods without rows of their own get the same rows. -/
lemma IsBare.withTables_eq {method other : Method} (h : method.IsBare) (g : other.IsBare)
    (tables : List Table) :
    (method.withTables tables).errors = (other.withTables tables).errors
      ∧ (method.withTables tables).parameters = (other.withTables tables).parameters
      ∧ (method.withTables tables).bodyParameters = (other.withTables tables).bodyParameters := by
  simp only [withTables, h.errors, g.errors, h.parameters, g.parameters, h.bodyParameters,
    g.bodyParameters, and_self]

end Method

namespace Page

variable {settings : Settings} {context : Option String} {page : Page} {tables : List Table}
  {methods : List Method}

/-! ## All methods -/

lemma value_applyToAll (methods : List Method) (table : Table) :
    (applyToAll context methods table).value = methods.map (Method.withTables [table]) := by
  rw [applyToAll, value_mapM]
  exact map_congr_left fun method _ => Method.value_applyTable table method

/-- Every method gets the rows of all tables. -/
lemma value_foldlM_applyToAll (tables : List Table) (methods : List Method) :
    (tables.foldlM (applyToAll context) methods).value
      = methods.map (Method.withTables tables) := by
  induction tables generalizing methods with
  | nil => simp
  | cons table rest ih =>
      rw [foldlM_cons, value_bind, value_applyToAll, ih, map_map]
      exact map_congr_left fun method _ => (Method.withTables_cons table rest method).symm

/-! ## Whether it is clear what tables are about -/

/-- It is unclear which of several methods the tables of a page are about: the methods do not all
have one route, and there are two tables of one kind. -/
structure IsUnclear (page : Page) : Prop where
  several : 1 < page.methods.length
  routes : ¬ ∃ route, ∀ method ∈ page.methods, method.route? = some route
  repeated : ∃ kind, 1 < ((page.tables.filter isForMethods).map (·.kind)).count kind

lemma haveOneRoute_iff (nonempty : methods ≠ []) :
    haveOneRoute methods = true ↔ ∃ route, ∀ method ∈ methods, method.route? = some route := by
  obtain ⟨first, rest, rfl⟩ := exists_cons_of_ne_nil nonempty
  simp only [haveOneRoute, Bool.and_eq_true, all_eq_true, beq_iff_eq, Option.isSome_iff_exists]
  constructor
  · rintro ⟨⟨route, found⟩, same⟩
    exact ⟨route, fun method mem => (same method mem).trans found⟩
  · rintro ⟨route, all⟩
    exact ⟨⟨route, all first mem_cons_self⟩,
      fun method mem => (all method mem).trans (all first mem_cons_self).symm⟩

lemma isAmbiguous_iff :
    isAmbiguous page.methods (page.tables.filter isForMethods) = true ↔ page.IsUnclear := by
  have repeated (kinds : List TableKind) : ¬ kinds.Nodup ↔ ∃ kind, 1 < kinds.count kind := by
    simp [nodup_iff_count_le_one]
  simp only [isAmbiguous, Bool.and_eq_true, decide_eq_true_iff, Bool.not_eq_true',
    decide_eq_false_iff_not, repeated]
  constructor
  · rintro ⟨⟨several, routes⟩, twice⟩
    refine ⟨several, ?_, twice⟩
    rw [← haveOneRoute_iff (ne_nil_of_length_pos (by omega)), routes]
    exact Bool.false_ne_true
  · rintro ⟨several, routes, twice⟩
    rw [← haveOneRoute_iff (ne_nil_of_length_pos (by omega)), Bool.not_eq_true] at routes
    exact ⟨⟨several, routes⟩, twice⟩

/-! ## Tables before they are applied -/

/-- What finding the namespace and joining tables of properties may do to a table.  A table of
requests keeps everything that matters to methods. -/
structure KeepsMethodTables (change : Table → Table) : Prop where
  kind : ∀ table, (change table).kind = table.kind
  parameters : ∀ table, (change table).parameters = table.parameters
  errors : ∀ table, (change table).errors = table.errors
  users : ∀ table, isForMethods table = true → (change table).users = table.users

namespace KeepsMethodTables

lemma named (space : Option String) : KeepsMethodTables (named space) :=
  ⟨kind_named space, parameters_named space, errors_named space, fun table _ =>
    users_named space table⟩

lemma comp {first second : Table → Table} (h : KeepsMethodTables second)
    (g : KeepsMethodTables first) :
    KeepsMethodTables (second ∘ first) where
  kind table := (h.kind _).trans (g.kind _)
  parameters table := (h.parameters _).trans (g.parameters _)
  errors table := (h.errors _).trans (g.errors _)
  users table isFor := by
    refine (h.users _ ?_).trans (g.users _ isFor)
    rwa [isForMethods, g.kind]

/-- A table of properties is no table of requests. -/
lemma markUser (user : String) :
    KeepsMethodTables (Page.markUser (fun table => table.kind.isOfProperties) user) := by
  have marked (table : Table) : ∃ users,
      Page.markUser (fun table => table.kind.isOfProperties) user table = { table with users }
        ∧ (isForMethods table = true → users = table.users) := by
    unfold Page.markUser Table.addUser
    split
    · next ofProperties =>
        refine ⟨if table.users.contains user then table.users else table.users ++ [user], ?_, ?_⟩
        · split <;> rfl
        · intro isFor
          unfold TableKind.isOfProperties at ofProperties
          unfold isForMethods at isFor
          split at isFor <;> simp_all
    · exact ⟨table.users, rfl, fun _ => rfl⟩
  constructor
  all_goals
    intro table
    obtain ⟨users, same, kept⟩ := marked table
    rw [same]
  · rfl
  · rfl
  · exact kept

variable {change : Table → Table} (h : KeepsMethodTables change)
include h

lemma filter_map (tables : List Table) (takes : TableKind → Bool) :
    (tables.map change).filter (takes ·.kind) = (tables.filter (takes ·.kind)).map change := by
  rw [List.filter_map]
  refine congrArg _ (filter_congr fun table _ => ?_)
  rw [Function.comp_apply, h.kind]

lemma isForMethods_eq (table : Table) : isForMethods (change table) = isForMethods table := by
  rw [isForMethods, h.kind, isForMethods]

lemma filter_isForMethods (tables : List Table) :
    (tables.map change).filter isForMethods = (tables.filter isForMethods).map change := by
  rw [List.filter_map]
  exact congrArg _ (filter_congr fun table _ => h.isForMethods_eq table)

lemma map_kind (tables : List Table) : (tables.map change).map (·.kind) = tables.map (·.kind) := by
  rw [map_map]
  exact map_congr_left fun table _ => h.kind table

lemma withTables (tables : List Table) :
    Method.withTables (tables.map change) = Method.withTables tables := by
  have joined (known : List Parameter) (tables : List Table) :
      Method.joinTables known (tables.map change) = Method.joinTables known tables := by
    simp only [Method.joinTables, foldl_map, h.parameters]
  have errors : (tables.map change).filter (·.kind = .errorCodes)
      = (tables.filter (·.kind = .errorCodes)).map change := h.filter_map tables (· = .errorCodes)
  have parameters : (tables.map change).filter (·.kind.IsOfParameters)
      = (tables.filter (·.kind.IsOfParameters)).map change := h.filter_map tables (·.IsOfParameters)
  have body : (tables.map change).filter (·.kind = .requestBody)
      = (tables.filter (·.kind = .requestBody)).map change := h.filter_map tables (· = .requestBody)
  funext method
  simp only [Method.withTables, errors, parameters, body, joined, flatMap_map, h.errors]

end KeepsMethodTables

/-- Up to the tables of requests, only tables of properties are marked. -/
lemma exists_tables_propertied (settings : Settings) (context : Option String) (page : Page) :
    ∃ change, KeepsMethodTables change
      ∧ (propertied settings context page).tables = page.tables.map change
      ∧ (propertied settings context page).methods = page.methods := by
  have spaced : (spaced settings page).tables = page.tables.map (named (spaceOf settings page))
      ∧ (spaced settings page).methods = page.methods := by
    rw [Page.spaced, value_resolveNamespace]
    exact ⟨rfl, rfl⟩
  simp only [propertied, mergeResourceTables]
  split
  · exact ⟨_, .named _, spaced⟩
  · split
    · exact ⟨_, .named _, spaced⟩
    · next resource only =>
        refine ⟨_, (KeepsMethodTables.markUser resource.name).comp (.named (spaceOf settings page)),
          ?_, spaced.2⟩
        rw [← map_map, ← spaced.1]
        rfl
    · exact ⟨_, .named _, spaced⟩

/-! ## Applying tables -/

section applying

variable (context : Option String) (tabled : page.tables.any isForMethods = true)
  (requested : page.methods ≠ [])
include tabled requested

lemma isEmpty_or_isEmpty_eq_false :
    ((page.tables.filter isForMethods).isEmpty || page.methods.isEmpty) = false := by
  simpa [requested] using tabled

lemma mergeMethodTables_of_isUnclear (unclear : page.IsUnclear) :
    (page.mergeMethodTables context).value = page
      ∧ ∃ message, (page.mergeMethodTables context).issues
        = [.warning .ambiguousTableMapping message] := by
  simp only [mergeMethodTables, isEmpty_or_isEmpty_eq_false tabled requested,
    isAmbiguous_iff.2 unclear]
  exact ⟨rfl, _, rfl⟩

lemma mergeMethodTables_of_not_isUnclear (clear : ¬ page.IsUnclear) :
    (page.mergeMethodTables context).value.methods
        = page.methods.map (Method.withTables (page.tables.filter isForMethods))
      ∧ (page.mergeMethodTables context).issues.filter (·.code == .ambiguousTableMapping) = [] := by
  have found : HasCodes typeCodes
      ((page.tables.filter isForMethods).foldlM (applyToAll context) page.methods) :=
    .foldlM (fun _ _ => .mapM (fun _ => (hasCodes_applyTable ..).within _) _) ..
  rw [← isAmbiguous_iff, Bool.not_eq_true] at clear
  simp only [mergeMethodTables, isEmpty_or_isEmpty_eq_false tabled requested, clear]
  refine ⟨value_foldlM_applyToAll .., ?_⟩
  exact (found.bind fun methods => HasCodes.pure _).filter_eq_nil (by decide)

end applying

/-! ## Pages that are reconciled -/

section reconciled

variable (settings : Settings) (context : Option String)

lemma isUnclear_propertied : (propertied settings context page).IsUnclear ↔ page.IsUnclear := by
  obtain ⟨change, keeps, tables, methods⟩ := exists_tables_propertied settings context page
  rw [← isAmbiguous_iff, ← isAmbiguous_iff, methods, tables, keeps.filter_isForMethods, isAmbiguous,
    keeps.map_kind, isAmbiguous]

lemma any_isForMethods_propertied :
    (propertied settings context page).tables.any isForMethods = page.tables.any isForMethods := by
  obtain ⟨change, keeps, tables, -⟩ := exists_tables_propertied settings context page
  rw [tables, any_map]
  simp only [Function.comp_def, keeps.isForMethods_eq]

lemma methods_propertied : (propertied settings context page).methods = page.methods :=
  (exists_tables_propertied settings context page).choose_spec.2.2

variable (tabled : page.tables.any isForMethods = true) (requested : page.methods ≠ [])
include tabled requested

/-- The only thing that is done for an unclear page is to warn. -/
lemma reconcile_of_isUnclear (unclear : page.IsUnclear) :
    (page.reconcile settings context).value = propertied settings context page
      ∧ ∃ message, (page.reconcile settings context).issues.filter
        (·.code == .ambiguousTableMapping)
          = [.warning .ambiguousTableMapping message] := by
  obtain ⟨kept, message, reported⟩ := mergeMethodTables_of_isUnclear context
    ((any_isForMethods_propertied settings context).trans tabled)
    ((methods_propertied settings context).trans_ne requested)
    ((isUnclear_propertied settings context).2 unclear)
  refine ⟨kept, message, ?_⟩
  rw [filter_issues_reconcile_of_method (by decide), reported]
  rfl

lemma reconcile_of_not_isUnclear (clear : ¬ page.IsUnclear) :
    (page.reconcile settings context).value.methods
        = page.methods.map (Method.withTables (page.tables.filter isForMethods))
      ∧ (page.reconcile settings context).issues.filter (·.code == .ambiguousTableMapping)
        = [] := by
  obtain ⟨change, keeps, tables, methods⟩ := exists_tables_propertied settings context page
  obtain ⟨applied, silent⟩ := mergeMethodTables_of_not_isUnclear context
    ((any_isForMethods_propertied settings context).trans tabled)
    (methods.trans_ne requested) ((isUnclear_propertied settings context).not.2 clear)
  rw [tables, keeps.filter_isForMethods, keeps.withTables, methods] at applied
  exact ⟨applied, (filter_issues_reconcile_of_method (by decide)).trans silent⟩

end reconciled

/-! ## What is applied -/

/-- **Tables of requests are applied to all methods or to none,** if a page has both.  A warning
says that it is unclear what they are about, and then methods stay as they are and no such table has
a user; this is so exactly for a page that is unclear.  Otherwise there is no such warning, and
every method has the errors of all tables behind its own and is joined with the parameters of all
tables in order, so all methods end with the same rows. -/
theorem method_tables_applied (settings : Settings) (context : Option String) (path : String)
    (blocks : List Block) (links : List Markdown.Link)
    (tabled : (Page.scan settings path blocks).value.tables.any isForMethods = true)
    (requested : (Page.scan settings path blocks).value.methods ≠ []) :
    let page := { (Page.scan settings path blocks).value with links }
    let reconciled := page.reconcile settings context
    let warnings := reconciled.issues.filter (·.code == .ambiguousTableMapping)
    ((∃ message, warnings = [.warning .ambiguousTableMapping message])
        ∧ reconciled.value.methods = page.methods
        ∧ (∀ table ∈ reconciled.value.tables, isForMethods table = true → table.users = []) ↔
      page.IsUnclear)
    ∧ (¬ page.IsUnclear → warnings = []
        ∧ reconciled.value.methods
          = page.methods.map (Method.withTables (page.tables.filter isForMethods))
        ∧ ∀ method ∈ reconciled.value.methods, ∀ other ∈ reconciled.value.methods,
            method.errors = other.errors ∧ method.parameters = other.parameters
              ∧ method.bodyParameters = other.bodyParameters) := by
  intro page reconciled warnings
  have isRead : page.IsAsRead path := (isAsRead_scan settings path blocks).withLinks links
  have tabled : page.tables.any isForMethods = true := tabled
  have requested : page.methods ≠ [] := requested
  have clear (isClear : ¬ page.IsUnclear) : reconciled.value.methods
      = page.methods.map (Method.withTables (page.tables.filter isForMethods)) ∧ warnings = [] :=
    reconcile_of_not_isUnclear settings context tabled requested isClear
  refine ⟨⟨?_, ?_⟩, ?_⟩
  · rintro ⟨⟨message, warned⟩, -⟩
    by_contra isClear
    rw [(clear isClear).2] at warned
    cases warned
  · intro isUnclear
    obtain ⟨kept, warned⟩ := reconcile_of_isUnclear settings context tabled requested isUnclear
    obtain ⟨change, keeps, tables, methods⟩ := exists_tables_propertied settings context page
    refine ⟨warned, (congrArg Page.methods kept).trans methods, ?_⟩
    rw [(congrArg Page.tables kept).trans tables]
    refine forall_mem_map.2 fun table mem isFor => ?_
    rw [keeps.isForMethods_eq] at isFor
    rw [keeps.users table isFor, isRead.unused table mem]
  · intro isClear
    obtain ⟨applied, silent⟩ := clear isClear
    refine ⟨silent, applied, ?_⟩
    rw [applied]
    refine forall_mem_map.2 fun method mem => forall_mem_map.2 fun other mem' => ?_
    exact (isRead.bare method mem).withTables_eq (isRead.bare other mem') _

/-- Two requests with different routes, and two tables of parameters in paths. -/
def requestBlocks : List Block :=
  [⟨.comment, "<!-- \x7b \"blockType\": \"request\" \x7d -->", 1, none⟩,
   ⟨.code, "GET /items", 2, some "http"⟩,
   ⟨.comment, "<!-- \x7b \"blockType\": \"request\" \x7d -->", 6, none⟩,
   ⟨.code, "GET /users", 7, some "http"⟩,
   ⟨.heading 2, "Path parameters", 11, none⟩,
   ⟨.table ⟨["Name", "Type"], [["id", "String"]]⟩, "", 13, none⟩,
   ⟨.table ⟨["Name", "Type"], [["key", "String"]]⟩, "", 17, none⟩]

/-- It is unclear which of the two requests the tables are about, so neither gets a row.  On a page
with the second request alone, this one gets the rows of both tables. -/
theorem rows_of_requests :
    (let page := { (Page.scan .stock "items.md" requestBlocks).value with links := [] }
      let reconciled := page.reconcile .stock (some "items.md")
      page.methods.length = 2 ∧ page.IsUnclear
        ∧ (∃ message, reconciled.issues.filter (·.code == .ambiguousTableMapping)
            = [.warning .ambiguousTableMapping message])
        ∧ ∀ method ∈ reconciled.value.methods, method.parameters = [])
    ∧ (let page := { (Page.scan .stock "users.md" (requestBlocks.drop 2)).value with links := [] }
      let reconciled := page.reconcile .stock (some "users.md")
      page.methods.length = 1 ∧ ¬ page.IsUnclear
        ∧ reconciled.issues.filter (·.code == .ambiguousTableMapping) = []
        ∧ reconciled.value.methods.map (·.parameters.map (·.name)) = [["id", "key"]]) := by
  constructor
  · intro page reconciled
    have read : page.methods.length = 2 ∧ page.tables.any isForMethods = true
        ∧ isAmbiguous page.methods (page.tables.filter isForMethods) = true := by
      decide +kernel
    obtain ⟨two, tabled, ambiguous⟩ := read
    have unclear : page.IsUnclear := isAmbiguous_iff.1 ambiguous
    have requested : page.methods ≠ [] := ne_nil_of_length_pos (by omega)
    obtain ⟨⟨-, applied⟩, -⟩ :=
      method_tables_applied .stock (some "items.md") "items.md" requestBlocks [] tabled requested
    obtain ⟨warned, kept, -⟩ := applied unclear
    have isRead : page.IsAsRead "items.md" :=
      (isAsRead_scan .stock "items.md" requestBlocks).withLinks []
    refine ⟨two, unclear, warned, ?_⟩
    rw [kept]
    exact fun method mem => (isRead.bare method mem).parameters
  · intro page reconciled
    have read : page.methods.length = 1 ∧ page.tables.any isForMethods = true
        ∧ isAmbiguous page.methods (page.tables.filter isForMethods) = false := by
      decide +kernel
    obtain ⟨one, tabled, unambiguous⟩ := read
    have clear : ¬ page.IsUnclear := by
      rw [← isAmbiguous_iff, unambiguous]
      exact Bool.false_ne_true
    have requested : page.methods ≠ [] := ne_nil_of_length_pos (by omega)
    obtain ⟨-, applied⟩ := method_tables_applied .stock (some "users.md") "users.md"
      (requestBlocks.drop 2) [] tabled requested
    obtain ⟨silent, joined, -⟩ := applied clear
    refine ⟨one, clear, silent, ?_⟩
    rw [joined]
    decide +kernel

end Page

end DocAudit
