import DocAudit.Markdown.Inline
import DocAudit.Method
import DocAudit.Outline.Heading

/-!
# What a page documents

Everything that reading a page finds: resources, methods, tables and other samples, the order in
which they were found, the headings with their bookmarks, and the links.
-/

namespace DocAudit

/-- A block of code that is kept by itself. -/
structure Sample where
  role : BlockRole
  language : Option String
  content : String
  line : Nat
  deriving DecidableEq, Repr

/-- Something found on a page, by its position among those of its kind. -/
inductive Element where
  | resource (position : Nat)
  | method (position : Nat)
  | table (position : Nat)
  | sample (position : Nat)
  deriving DecidableEq, Repr

/-- What a page documents.  The path is relative to the root of the set, the title is the text of
the first heading of the first level, and the namespace is known only after the page was
reconciled. -/
structure Page where
  path : String
  title : Option String
  metadata : Option PageMetadata
  space : Option String
  resources : List Resource
  methods : List Method
  samples : List Sample
  tables : List Table
  elements : List Element
  outline : Outline
  bookmarks : List String
  links : List Markdown.Link
  deriving Repr

namespace Page

/-- A page without contents. -/
def empty (path : String) : Page :=
  { path, title := none, metadata := none, space := none, resources := [], methods := [],
    samples := [], tables := [], elements := [], outline := .empty, bookmarks := [], links := [] }

/-- All members of enumerations that the tables of a page list. -/
def enumMembers (page : Page) : List EnumMember :=
  page.tables.flatMap (·.members)

/-! ## Adding what was found -/

/-- Adds a resource. -/
def addResource (page : Page) (resource : Resource) : Page :=
  { page with
    resources := page.resources ++ [resource]
    elements := page.elements ++ [.resource page.resources.length] }

/-- Adds a method. -/
def addMethod (page : Page) (method : Method) : Page :=
  { page with
    methods := page.methods ++ [method]
    elements := page.elements ++ [.method page.methods.length] }

/-- Adds a table. -/
def addTable (page : Page) (table : Table) : Page :=
  { page with
    tables := page.tables ++ [table]
    elements := page.elements ++ [.table page.tables.length] }

/-- Adds a sample. -/
def addSample (page : Page) (sample : Sample) : Page :=
  { page with
    samples := page.samples ++ [sample]
    elements := page.elements ++ [.sample page.samples.length] }

/-- Changes the method at a position. -/
def changeMethod (page : Page) (position : Nat) (change : Method → Method) : Page :=
  { page with methods := page.methods.modify position change }

end Page

end DocAudit
