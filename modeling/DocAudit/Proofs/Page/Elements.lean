import DocAudit.Proofs.Page.KeptLists
import DocAudit.Proofs.Page.Responses
import DocAudit.Proofs.Page.UnusedCode

/-!
# Elements of a page

A page keeps resources, methods, tables and samples in a list for each kind, and its elements say in
which order they were found.  What a block adds can be told from the block and the one before it
(`Block.addedKind?`), and reading the block adds just that, behind what was there
(`Scan.adds_step`).  So while a page is read, the elements of a kind have the positions in the list
of the kind, one after the other, and stand in the order of the blocks that they come from
(`Page.Indexed`, `Scan.indexed_run`).

Reconciling a page leaves everything where it stands (`Page.skeleton_reconcile`).
-/

namespace DocAudit

open List Audit

/-! ## Kinds of elements -/

/-- What an element of a page may be. -/
inductive ElementKind where
  | resource
  | method
  | table
  | sample
  deriving DecidableEq

namespace Element

/-- What an element is. -/
def kind : Element → ElementKind
  | resource _ => .resource
  | method _ => .method
  | table _ => .table
  | sample _ => .sample

/-- The position among all elements of the kind. -/
def position : Element → ℕ
  | resource position | method position | table position | sample position => position

/-- The element of a kind at a position. -/
def of : ElementKind → ℕ → Element
  | .resource => resource
  | .method => method
  | .table => table
  | .sample => sample

@[simp] lemma kind_of (kind : ElementKind) (position : ℕ) : (of kind position).kind = kind := by
  cases kind <;> rfl

@[simp] lemma position_of (kind : ElementKind) (position : ℕ) :
    (of kind position).position = position := by
  cases kind <;> rfl

end Element

namespace Page

/-- The lines of all that a page has of a kind, in its order. -/
def lines (page : Page) : ElementKind → List ℕ
  | .resource => page.resources.map (·.line)
  | .method => page.methods.map (·.line)
  | .table => page.tables.map (·.line)
  | .sample => page.samples.map (·.line)

/-- The line of what an element refers to, if there is something. -/
def line? (page : Page) (element : Element) : Option ℕ :=
  (page.lines element.kind)[element.position]?

/-! ## Adding something -/

/-- The next page has something more, given by its kind and line: its element stands behind all
others, and it itself behind the others of its kind. -/
structure Adds (added : Option (ElementKind × ℕ)) (page next : Page) : Prop where
  elements : next.elements
    = page.elements ++ added.toList.map fun (kind, _) => .of kind (page.lines kind).length
  lines : ∀ kind, next.lines kind = page.lines kind ++ (added.toList.filter (·.1 = kind)).map (·.2)

variable {page next : Page} {line : ℕ} {found : List (ElementKind × ℕ)}
  {added : Option (ElementKind × ℕ)}

lemma adds_none (elements : next.elements = page.elements)
    (lines : ∀ kind, next.lines kind = page.lines kind) :
    Adds none page next where
  elements := elements.trans (append_nil _).symm
  lines kind := (lines kind).trans (append_nil _).symm

lemma adds_resource {resource : Resource} (here : resource.line = line) :
    Adds (some (.resource, line)) page (page.addResource resource) where
  elements := by simp [addResource, lines, Element.of]
  lines kind := by cases kind <;> simp [addResource, lines, here]

lemma adds_method {method : Method} (here : method.line = line) :
    Adds (some (.method, line)) page (page.addMethod method) where
  elements := by simp [addMethod, lines, Element.of]
  lines kind := by cases kind <;> simp [addMethod, lines, here]

lemma adds_table {table : Table} (here : table.line = line) :
    Adds (some (.table, line)) page (page.addTable table) where
  elements := by simp [addTable, lines, Element.of]
  lines kind := by cases kind <;> simp [addTable, lines, here]

lemma adds_sample {sample : Sample} (here : sample.line = line) :
    Adds (some (.sample, line)) page (page.addSample sample) where
  elements := by simp [addSample, lines, Element.of]
  lines kind := by cases kind <;> simp [addSample, lines, here]

/-! ## Positions and lines -/

/-- The elements of a page come from what was found, in the same order, and those of each kind have
the positions in the list of the kind, one after the other. -/
structure Indexed (found : List (ElementKind × ℕ)) (page : Page) : Prop where
  positions : ∀ kind, (page.elements.filter (·.kind = kind)).map (·.position)
    = range (page.lines kind).length
  origins : (page.elements.map fun element => (element.kind, page.line? element))
    = found.map fun (kind, line) => (kind, some line)

lemma indexed_empty (path : String) : (empty path).Indexed [] where
  positions kind := by cases kind <;> rfl
  origins := rfl

/-- Adding something disturbs nothing that was found before. -/
lemma Indexed.line?_eq (h : page.Indexed found) (adds : Adds added page next) :
    ∀ element ∈ page.elements, next.line? element = page.line? element := by
  intro element mem
  have origin : (element.kind, page.line? element) ∈ found.map fun (kind, line) =>
      (kind, some line) := by
    rw [← h.origins]
    exact mem_map_of_mem (f := fun element => (element.kind, page.line? element)) mem
  obtain ⟨⟨kind, line⟩, -, same⟩ := mem_map.1 origin
  have isHere : (page.lines element.kind)[element.position]? = some line :=
    (congrArg Prod.snd same).symm
  obtain ⟨inside, -⟩ := List.getElem?_eq_some_iff.1 isHere
  rw [line?, adds.lines, getElem?_append_left inside, ← line?]

lemma Indexed.adds (h : page.Indexed found) (adds : Adds added page next) :
    next.Indexed (found ++ added.toList) where
  positions kind := by
    rw [adds.elements, adds.lines, filter_append, map_append, h.positions]
    cases added with
    | none => simp
    | some new =>
        by_cases same : new.1 = kind
        · subst same
          simp [range_succ]
        · simp [same]
  origins := by
    have before := map_congr_left fun element mem =>
      congrArg (Prod.mk element.kind) (h.line?_eq adds element mem)
    rw [adds.elements, map_append, map_append, before, h.origins]
    refine congrArg _ ?_
    cases added with
    | none => rfl
    | some new => simp [line?, adds.lines]

end Page

/-! ## What a block adds -/

/-- Where a resource comes from. -/
def Resource.origin (resource : Resource) : BlockOrigin :=
  ⟨resource.file, resource.line, resource.title, resource.description⟩

lemma Resource.origin_ofExample {naming : TypeNaming} {metadata : CodeMetadata} {json : String}
    {origin : BlockOrigin}
    {resource : Resource} (found : (ofExample naming metadata json origin).value = some resource) :
    resource.origin = origin := by
  simp only [ofExample] at found
  split at found
  · cases found
  · obtain ⟨parameters, -, rfl⟩ := Option.map_eq_some_iff.1 found
    rfl

/-- Whether an example shows a resource does not depend on where it stands. -/
lemma Resource.isSome_ofExample {naming : TypeNaming} {metadata : CodeMetadata} {json : String}
    (origin other : BlockOrigin) :
    (ofExample naming metadata json origin).value.isSome
      = (ofExample naming metadata json other).value.isSome := by
  have moved {origin other : BlockOrigin}
      (rejected : (ofExample naming metadata json origin).value = none) :
      (ofExample naming metadata json other).value = none := by
    obtain ⟨message, same⟩ := ofExample_of_rejected rejected other
    rw [same]
  rw [Bool.eq_iff_iff, Option.isSome_iff_ne_none, Option.isSome_iff_ne_none]
  exact not_congr ⟨moved, moved⟩

/-- What annotated code adds to a page. -/
def Directive.addedKind? (settings : Settings) (directive : Directive) : Option ElementKind :=
  match directive.role with
  | .resource =>
    let shown := Resource.ofExample settings.naming directive.metadata directive.block.content
      ⟨"", 0, none, none⟩
    if shown.value.isSome then some .resource else none
  | .request => some .method
  | .example | .samples => some .sample
  | .response | .simulatedResponse | .testParams | .ignored => none

/-- What a block adds to a page, behind another block. -/
def Block.addedKind? (settings : Settings) (previous : Option Block) (block : Block) :
    Option ElementKind :=
  match block.kind with
  | .table _ => some .table
  | _ => (Scan.directive? [] previous block).bind (·.addedKind? settings)

/-- All that blocks add to a page, with the lines of the blocks. -/
def Block.allAdded (settings : Settings) (previous : Option Block) (blocks : List Block) :
    List (ElementKind × ℕ) :=
  ((previous :: blocks.map some).zip blocks).filterMap fun (previous, block) =>
    (block.addedKind? settings previous).map (·, block.line)

lemma Directive.addedKind?_resource {settings : Settings} {metadata : CodeMetadata} {block : Block}
    (declared : List String) (origin : BlockOrigin) :
    addedKind? settings ⟨declared, metadata, .resource, block⟩ =
      if (Resource.ofExample settings.naming metadata block.content origin).value.isSome
        then some .resource else none := by
  rw [Resource.isSome_ofExample origin ⟨"", 0, none, none⟩]
  rfl

lemma Directive.addedKind?_eq_method_iff {settings : Settings} {directive : Directive} :
    directive.addedKind? settings = some .method ↔ directive.role = .request := by
  unfold addedKind?
  split <;> simp_all

lemma Scan.directive?_of_plain {block : Block} (plain : block.isCode = false)
    (declared : List String)
    (previous : Option Block) : directive? declared previous block = none := by
  rw [directive?, plain]
  rfl

namespace Block

variable {settings : Settings} {previous : Option Block} {block : Block}

lemma allAdded_cons (settings : Settings) (previous : Option Block) (block : Block)
    (rest : List Block) :
    allAdded settings previous (block :: rest)
      = ((block.addedKind? settings previous).map (·, block.line)).toList
        ++ allAdded settings (some block) rest := by
  rw [allAdded, map_cons, zip_cons_cons, filterMap_cons]
  dsimp only
  cases block.addedKind? settings previous <;> rfl

/-- Tables, and no other blocks, add a table. -/
lemma addedKind?_eq_table_iff :
    block.addedKind? settings previous = some .table ↔ ∃ shape, block.kind = .table shape := by
  have never (directive : Directive) : directive.addedKind? settings ≠ some .table := by
    unfold Directive.addedKind?
    split <;> simp
  unfold addedKind?
  split
  · next shape isTable => exact iff_of_true rfl ⟨shape, isTable⟩
  · next noTable =>
      refine iff_of_false (fun added => ?_) fun ⟨shape, isTable⟩ => noTable shape isTable
      obtain ⟨directive, -, isTable⟩ := Option.bind_eq_some_iff.1 added
      exact never directive isTable

/-- Requests, and no other blocks, add a method. -/
lemma addedKind?_eq_method_iff : block.addedKind? settings previous = some .method ↔
    ∃ directive, Scan.directive? [] previous block = some directive
      ∧ directive.role = .request := by
  unfold addedKind?
  split
  · next shape isTable =>
      have unsaid : Scan.directive? [] previous block = none := by
        rw [Scan.directive?, if_neg (by simp [isCode, isTable])]
      simp [unsaid]
  · simp only [Option.bind_eq_some_iff, Directive.addedKind?_eq_method_iff]

end Block

/-- A method without what is told about it behind its request. -/
def Method.asked (method : Method) : Method :=
  { method with response := none, simulatedResponse := none, testParams := [] }

namespace Scan

open Page

variable {settings : Settings} {scan : Scan} {metadata : CodeMetadata} {block : Block}
  {found : List (ElementKind × ℕ)}

/-- Methods may be told more about than what they ask for. -/
def Answers (scan next : Scan) : Prop :=
  ∃ methods, next = { scan with page := { scan.page with methods } }
    ∧ methods.map Method.asked = scan.page.methods.map Method.asked

lemma answers_refl (scan : Scan) : Answers scan scan :=
  ⟨_, rfl, rfl⟩

lemma Answers.trans {between next : Scan} (first : Answers scan between)
    (second : Answers between next) :
    Answers scan next := by
  obtain ⟨_, rfl, first⟩ := first
  obtain ⟨methods, rfl, second⟩ := second
  exact ⟨methods, rfl, second.trans first⟩

lemma answers_changeMethod (scan : Scan) (position : ℕ) {change : Method → Method}
    (stays : ∀ method, (change method).asked = method.asked) :
    Answers scan { scan with page := scan.page.changeMethod position change } := by
  refine ⟨_, rfl, ext_getElem? fun index => ?_⟩
  rw [getElem?_map, getElem?_modify, getElem?_map]
  cases scan.page.methods[index]? with
  | none => rfl
  | some method => by_cases here : position = index <;> simp [here, stays]

lemma answers_respond (response : Response) (line position : ℕ) :
    Answers scan (respond response line scan position).value := by
  unfold respond
  split
  · exact answers_refl scan
  · split
    · exact answers_refl scan
    · exact answers_changeMethod scan position fun _ => rfl

lemma answers_response : Answers scan (scan.response metadata block).value := by
  have all (targets : List ℕ) :
      Answers scan (targets.foldlM (respond ⟨block.content, metadata⟩ block.line) scan).value := by
    rw [Audit.value_foldlM]
    exact foldlRecOn (motive := Answers scan) targets _ (answers_refl scan)
      fun _ answers position _ => answers.trans (answers_respond ..)
  simp only [response]
  split
  · exact answers_refl scan
  · split
    · exact all _
    · exact all _

lemma answers_changeLatest (message : String) {change : Method → Method}
    (stays : ∀ method, (change method).asked = method.asked) :
    Answers scan (scan.changeLatest message change).value := by
  unfold changeLatest
  split
  · exact answers_refl scan
  · exact answers_changeMethod scan _ stays

/-- What methods ask for is all that tells where they come from. -/
lemma Answers.map_eq {α : Type} {methods : List Method} {seen : Method → α}
    (same : methods.map Method.asked = scan.page.methods.map Method.asked)
    (asked : ∀ method, seen method.asked = seen method) :
    methods.map seen = scan.page.methods.map seen := by
  have seen_asked := congrArg (map seen) same
  simpa only [map_map, Function.comp_def, asked] using seen_asked

/-- Telling methods more adds nothing. -/
lemma Answers.adds {next : Scan} (h : Answers scan next) : Adds none scan.page next.page := by
  obtain ⟨methods, rfl, same⟩ := h
  refine adds_none rfl fun kind => ?_
  cases kind with
  | method => exact map_eq same fun _ => rfl
  | _ => rfl

lemma adds_request :
    Adds (some (.method, block.line)) scan.page (scan.request metadata block).value.page := by
  simp only [request]
  split
  · exact adds_method rfl
  · exact adds_method rfl

lemma adds_ofExample (declared : List String) :
    Adds ((Directive.addedKind? settings ⟨declared, metadata, .resource, block⟩).map
      (·, block.line)) scan.page
      (scan.codeWithRole settings metadata block .resource).value.page := by
  rw [codeWithRole, Audit.value_bind, Directive.addedKind?_resource declared (scan.origin block)]
  cases found :
    (Resource.ofExample settings.naming metadata block.content (scan.origin block)).value with
  | some resource => exact adds_resource (congrArg (·.line) (Resource.origin_ofExample found))
  | none => exact adds_none rfl fun _ => rfl

lemma adds_codeWithRole (role : BlockRole) (declared : List String) :
    Adds ((Directive.addedKind? settings ⟨declared, metadata, role, block⟩).map
      (·, block.line)) scan.page
      (scan.codeWithRole settings metadata block role).value.page := by
  cases role with
  | resource => exact adds_ofExample declared
  | request => exact adds_request
  | response => exact answers_response.adds
  | simulatedResponse => exact Answers.adds (answers_changeLatest _ fun _ => rfl)
  | testParams => exact Answers.adds (answers_changeLatest _ fun _ => rfl)
  | ignored => exact adds_none rfl fun _ => rfl
  | _ => exact adds_sample rfl

/-- Code is either left alone, or read with what its comment says. -/
lemma code_cases (settings : Settings) (scan : Scan) (isCode : block.isCode)
    (previous : Option Block) :
    directive? [] previous block = none ∧ (scan.code settings previous block).value = scan
      ∨ ∃ metadata role, directive? [] previous block = some ⟨[], metadata, role, block⟩
        ∧ (scan.code settings previous block).value
          = (scan.codeWithRole settings metadata block role).value := by
  rw [directive?, if_pos isCode]
  unfold code
  cases previous.filter (·.isComment) with
  | none =>
      dsimp only
      split
      · exact .inl ⟨rfl, rfl⟩
      · exact .inl ⟨rfl, rfl⟩
  | some comment =>
      dsimp only [annotatedCode]
      simp only [Option.bind_eq_bind, Option.bind_some]
      cases CodeMetadata.read? comment.content with
      | none => exact .inl ⟨rfl, rfl⟩
      | some metadata =>
          simp only [Option.bind_some]
          cases metadata.role? with
          | none => exact .inl ⟨rfl, rfl⟩
          | some role => exact .inr ⟨metadata, role, rfl, rfl⟩

lemma adds_code (isCode : block.isCode) (previous : Option Block) :
    Adds (((directive? [] previous block).bind (·.addedKind? settings)).map
      (·, block.line)) scan.page
      (scan.code settings previous block).value.page := by
  rcases code_cases settings scan isCode previous with ⟨unsaid, same⟩ | ⟨metadata, role, said, same⟩
  · rw [unsaid, same]
    exact adds_none rfl fun _ => rfl
  · rw [said, same]
    exact adds_codeWithRole role []

/-- **Reading a block adds what can be told from the block and the one before it**, wherever they
stand. -/
lemma adds_step (scan : Scan) (previous : Option Block) (block : Block) (next : Option Block) :
    Adds ((block.addedKind? settings previous).map (·, block.line)) scan.page
      (scan.step settings previous block next).value.page := by
  have nothing : Adds none scan.page scan.page := adds_none rfl fun _ => rfl
  have unsaid (plain : block.isCode = false) := directive?_of_plain plain [] previous
  rw [step, Block.addedKind?]
  cases isKind : block.kind with
  | heading level =>
      rw [unsaid (by simp [Block.isCode, isKind])]
      exact adds_none rfl fun kind => by cases kind <;> rfl
  | paragraph =>
      rw [unsaid (by simp [Block.isCode, isKind]), Audit.value_pure, page_paragraph]
      exact nothing
  | comment =>
      rw [unsaid (by simp [Block.isCode, isKind])]
      dsimp only
      split
      · exact nothing
      · obtain ⟨metadata, same⟩ := exists_page_comment scan block
        rw [same]
        exact adds_none rfl fun kind => by cases kind <;> rfl
  | code => exact adds_code (by simp [Block.isCode, isKind]) previous
  | table shape => exact adds_table rfl
  | other =>
      rw [unsaid (by simp [Block.isCode, isKind])]
      exact nothing

lemma indexed_run (settings : Settings) (h : scan.page.Indexed found) (previous : Option Block)
    (blocks : List Block) :
    (run settings scan previous blocks).value.page.Indexed (found
      ++ Block.allAdded settings previous blocks) := by
  induction blocks generalizing scan found previous with
  | nil => exact (append_nil found).symm ▸ h
  | cons block rest ih =>
      rw [Block.allAdded_cons, ← append_assoc]
      exact ih (h.adds (adds_step scan previous block rest.head?)) (some block)

end Scan

/-! ## Reconciling -/

/-- A resource without the properties that reconciling joins with rows. -/
def Resource.emptied (resource : Resource) : Resource :=
  { resource with parameters := [] }

/-- A method without the rows that reconciling gives it. -/
def Method.emptied (method : Method) : Method :=
  { method with errors := [], parameters := [], bodyParameters := [] }

/-- A table without its rows, where reconciling names members of enumerations, and without those who
took them. -/
def Table.emptied (table : Table) : Table :=
  { table with rows := .unknown, users := [] }

namespace Page

/-- A page without what reconciling fills in. -/
def skeleton (page : Page) : Page :=
  { page with
    space := none
    resources := page.resources.map Resource.emptied
    methods := page.methods.map Method.emptied
    tables := page.tables.map Table.emptied }

lemma lines_skeleton (page : Page) (kind : ElementKind) :
    page.skeleton.lines kind = page.lines kind := by
  cases kind with
  | sample => rfl
  | _ => exact map_map

lemma map_emptied {change : Table → Table} (same : ∀ table, (change table).emptied = table.emptied)
    (tables : List Table) : (tables.map change).map Table.emptied = tables.map Table.emptied := by
  rw [map_map]
  exact map_congr_left fun table _ => same table

lemma emptied_named (space : Option String) (table : Table) :
    (named space table).emptied = table.emptied := by
  obtain ⟨rows, same, -, -⟩ := named_eq space table
  rw [same]
  rfl

lemma Marks.emptied_eq {takes : TableKind → Prop} {change : Table → Table} (h : Marks takes change)
    (table : Table) :
    (change table).emptied = table.emptied := by
  obtain ⟨users, same, -, -⟩ := h table
  rw [same]
  rfl

lemma skeleton_spaced (settings : Settings) (page : Page) :
    (page.spaced settings).skeleton = page.skeleton := by
  rw [spaced, value_resolveNamespace, skeleton, skeleton, map_emptied (emptied_named _)]

lemma skeleton_mergeResourceTables (context : Option String) (page : Page) :
    (page.mergeResourceTables context).value.skeleton = page.skeleton := by
  obtain ⟨change, marks, tables⟩ := exists_marks_mergeResourceTables context page
  obtain ⟨resources, others, joined, -⟩ := exists_mergeResourceTables_eq context page
  have resources := resources_mergeResourceTables context page
  rw [joined] at tables resources
  rw [joined, skeleton, skeleton, tables, resources, map_emptied marks.emptied_eq, map_map]
  rfl

lemma skeleton_mergeMethodTables (context : Option String) (page : Page) :
    (page.mergeMethodTables context).value.skeleton = page.skeleton := by
  obtain ⟨change, marks, tables⟩ := exists_marks_mergeMethodTables context page
  obtain ⟨methods, others, applied⟩ := exists_mergeMethodTables_eq context page
  obtain ⟨given, -, withRows⟩ := exists_methods_mergeMethodTables context page
  rw [applied] at tables withRows
  rw [applied, skeleton, skeleton, tables, withRows, map_emptied marks.emptied_eq, map_map]
  rfl

/-- Reconciling a page leaves everything where it stands. -/
lemma skeleton_reconcile (settings : Settings) (context : Option String) (page : Page) :
    (page.reconcile settings context).value.skeleton = page.skeleton := by
  rw [value_reconcile, skeleton_mergeMethodTables, propertied, skeleton_mergeResourceTables,
    skeleton_spaced]

/-- **Elements are positions in the lists of a page**, in the order of its blocks.

* The elements of each kind have the positions of all that the page has of the kind, one after the
  other.
* Each element comes from a block, which adds no other: the elements in their order have the kinds
  that the blocks in their order add, and refer to something on the line of the block.
* A block adds a table exactly if it is one, and a method exactly if it is an annotated request.
* Reconciling any page changes neither elements, headings, bookmarks nor samples, and no resource,
  method or table changes its place: each of them is the same, apart from the rows that it has and
  who took them. -/
theorem elements_indexed (settings : Settings) (path : String) (blocks : List Block) :
    let page := (Page.scan settings path blocks).value
    (∀ kind, (page.elements.filter (·.kind = kind)).map (·.position)
      = range (page.lines kind).length)
      ∧ (page.elements.map fun element => (element.kind, page.line? element))
        = (((none :: blocks.map some).zip blocks).filterMap fun (previous, block) =>
          (block.addedKind? settings previous).map fun kind => (kind, some block.line))
      ∧ (∀ previous block, Block.addedKind? settings previous block = some .table ↔
          ∃ shape, block.kind = .table shape)
      ∧ (∀ previous block, Block.addedKind? settings previous block = some .method ↔
          ∃ directive, Scan.directive? [] previous block = some directive
            ∧ directive.role = .request)
      ∧ ∀ (context : Option String) (page : Page), let reconciled :=
        (page.reconcile settings context).value
        reconciled.elements = page.elements ∧ reconciled.outline = page.outline
          ∧ reconciled.bookmarks = page.bookmarks ∧ reconciled.samples = page.samples
          ∧ (∀ kind, reconciled.lines kind = page.lines kind)
            ∧ reconciled.skeleton = page.skeleton := by
  intro page
  have start : (Scan.start path).page.Indexed [] := indexed_empty path
  have read := Scan.indexed_run settings start none blocks
  rw [nil_append] at read
  have finished : Adds none (Scan.run settings (.start path) none blocks).value.page page :=
    adds_none rfl fun kind => by cases kind <;> rfl
  have indexed := read.adds finished
  rw [Option.toList_none, append_nil] at indexed
  refine ⟨indexed.positions, ?_, fun _ _ => Block.addedKind?_eq_table_iff,
    fun _ _ => Block.addedKind?_eq_method_iff, ?_⟩
  · rw [indexed.origins, Block.allAdded, map_filterMap]
    refine filterMap_congr fun pair _ => ?_
    rw [Option.map_map]
    rfl
  · intro context page reconciled
    have same : reconciled.skeleton = page.skeleton := skeleton_reconcile settings context page
    have lines (kind : ElementKind) : reconciled.lines kind = page.lines kind := by
      rw [← lines_skeleton, same, lines_skeleton]
    exact ⟨congrArg (·.elements) same, congrArg (·.outline) same, congrArg (·.bookmarks) same,
      congrArg (·.samples) same, lines, same⟩

end Page

end DocAudit
