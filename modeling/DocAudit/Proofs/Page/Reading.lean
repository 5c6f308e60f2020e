import DocAudit.Proofs.Page.Growth
import DocAudit.Proofs.Resource

/-!
# Pages as they are read

What holds of a page before its parts are brought together.  Everything on the page stands on it,
resources show every property once, methods have no rows yet and tables no users (`Page.IsAsRead`).
Every change that reading makes keeps this (`Page.IsAsRead.change`), so it holds of every page that
was scanned (`Page.isAsRead_scan`).  Likewise, resources come from blocks of code and tables from
blocks with tables (`Page.isReadFrom_scan`).
-/

namespace DocAudit

open List

/-- A method without rows of tables. -/
structure Method.IsBare (method : Method) : Prop where
  errors : method.errors = []
  parameters : method.parameters = []
  bodyParameters : method.bodyParameters = []

namespace Page

/-- A page as it is read from a file. -/
structure IsAsRead (path : String) (page : Page) : Prop where
  itself : page.path = path
  files : ∀ resource ∈ page.resources, resource.file = path
  distinct : ∀ resource ∈ page.resources, (resource.parameters.map (·.name)).Nodup
  bare : ∀ method ∈ page.methods, method.IsBare
  unused : ∀ table ∈ page.tables, table.users = []

namespace IsAsRead

variable {settings : Settings} {path : String} {blocks : List Block} {page next : Page}

lemma empty (path : String) : IsAsRead path (.empty path) :=
  ⟨rfl, forall_mem_nil _, forall_mem_nil _, forall_mem_nil _, forall_mem_nil _⟩

/-! ## What is added -/

lemma addResource (h : IsAsRead path page) {resource : Resource} (file : resource.file = path)
    (distinct : (resource.parameters.map (·.name)).Nodup) :
    IsAsRead path (page.addResource resource) where
  itself := h.itself
  files := forall_mem_append.2 ⟨h.files, forall_mem_singleton.2 file⟩
  distinct := forall_mem_append.2 ⟨h.distinct, forall_mem_singleton.2 distinct⟩
  bare := h.bare
  unused := h.unused

lemma addMethod (h : IsAsRead path page) {method : Method} (bare : method.IsBare) :
    IsAsRead path (page.addMethod method) where
  itself := h.itself
  files := h.files
  distinct := h.distinct
  bare := forall_mem_append.2 ⟨h.bare, forall_mem_singleton.2 bare⟩
  unused := h.unused

lemma addTable (h : IsAsRead path page) {table : Table} (unused : table.users = []) :
    IsAsRead path (page.addTable table) where
  itself := h.itself
  files := h.files
  distinct := h.distinct
  bare := h.bare
  unused := forall_mem_append.2 ⟨h.unused, forall_mem_singleton.2 unused⟩

lemma changeMethod (h : IsAsRead path page) (position : Nat) {change : Method → Method}
    (keeps : ∀ method, method.IsBare → (change method).IsBare) :
    IsAsRead path (page.changeMethod position change) where
  itself := h.itself
  files := h.files
  distinct := h.distinct
  bare := by
    intro method mem
    obtain ⟨index, found⟩ := mem_iff_getElem?.1 mem
    rw [Page.changeMethod, getElem?_modify] at found
    obtain ⟨before, isBefore, rfl⟩ := Option.map_eq_some_iff.1 found
    have bare := h.bare before (mem_of_getElem? isBefore)
    split
    · exact keeps before bare
    · exact bare
  unused := h.unused

lemma withLinks (h : IsAsRead path page) (links : List Markdown.Link) :
    IsAsRead path { page with links } :=
  { h with }

/-- Every change that reading makes keeps a page as it is read. -/
lemma change (h : IsAsRead path page) (changed : Change settings blocks page next) :
    IsAsRead path next := by
  cases changed with
  | heading => exact { h with }
  | metadata => exact { h with }
  | resource _ _ here read =>
      obtain ⟨file, distinct⟩ := Resource.of_ofExample read
      exact h.addResource (file.trans (here.trans h.itself)) distinct
  | method => exact h.addMethod ⟨rfl, rfl, rfl⟩
  | answer position change tells =>
      refine h.changeMethod position fun method bare => ?_
      obtain ⟨response, simulatedResponse, testParams, same⟩ := tells method
      exact same ▸ ⟨bare.1, bare.2, bare.3⟩
  | table => exact h.addTable rfl
  | sample => exact { h with }

end IsAsRead

/-- A page that was scanned is as it is read. -/
theorem isAsRead_scan (settings : Settings) (path : String) (blocks : List Block) :
    IsAsRead path (Page.scan settings path blocks).value :=
  scan_induction (.empty path) fun _ _ changed h => h.change changed

/-! ## Where resources and tables come from -/

/-- The resources of a page are defined by examples in some blocks, and its tables are read from
tables. -/
structure IsReadFrom (settings : Settings) (blocks : List Block) (page : Page) : Prop where
  resources : ∀ resource ∈ page.resources, ∃ block ∈ blocks, block.kind = .code ∧ ∃ metadata origin,
    (Resource.ofExample settings.naming metadata block.content origin).value = some resource
  tables : ∀ table ∈ page.tables, ∃ block ∈ blocks, ∃ shape, block.kind = .table shape ∧ ∃ titles,
    (Table.read settings.naming settings.tables shape titles block.line).value = table

lemma IsReadFrom.change {settings : Settings} {blocks : List Block} {page next : Page}
    (h : IsReadFrom settings blocks page) (changed : Change settings blocks page next) :
    IsReadFrom settings blocks next := by
  cases changed with
  | resource mem isCode _ read =>
      exact ⟨forall_mem_append.2 ⟨h.resources, forall_mem_singleton.2 ⟨_, mem, isCode, _, _, read⟩⟩,
        h.tables⟩
  | table mem isTable =>
      exact ⟨h.resources,
        forall_mem_append.2 ⟨h.tables, forall_mem_singleton.2 ⟨_, mem, _, isTable, _, rfl⟩⟩⟩
  | _ => exact { h with }

/-- The resources and tables of a page that was scanned come from its blocks. -/
theorem isReadFrom_scan (settings : Settings) (path : String) (blocks : List Block) :
    IsReadFrom settings blocks (Page.scan settings path blocks).value :=
  scan_induction ⟨forall_mem_nil _, forall_mem_nil _⟩ fun _ _ changed h => h.change changed

/-- The resources of a page are defined by examples, and its tables are read from tables. -/
structure IsFrom (settings : Settings) (page : Page) : Prop where
  resources : ∀ resource ∈ page.resources, ∃ metadata json origin,
    (Resource.ofExample settings.naming metadata json origin).value = some resource
  tables : ∀ table ∈ page.tables, ∃ shape titles line,
    (Table.read settings.naming settings.tables shape titles line).value = table

theorem isFrom_scan (settings : Settings) (path : String) (blocks : List Block) :
    IsFrom settings (Page.scan settings path blocks).value where
  resources := by
    intro resource mem
    obtain ⟨block, -, -, metadata, origin, read⟩ :=
      (isReadFrom_scan settings path blocks).resources resource mem
    exact ⟨metadata, block.content, origin, read⟩
  tables := by
    intro table mem
    obtain ⟨block, -, shape, -, titles, read⟩ :=
      (isReadFrom_scan settings path blocks).tables table mem
    exact ⟨shape, titles, block.line, read⟩

end Page

end DocAudit
