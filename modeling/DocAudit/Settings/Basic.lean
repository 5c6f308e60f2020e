import DocAudit.Outline.Template
import DocAudit.Table.Kind
import DocAudit.TypeName

/-!
# Settings

What a set of pages may decide for itself: how types are named, which paragraphs are no
descriptions, how tables are read, which headings pages have, and how links and the work are dealt
with.  `Settings.stock` is what counts where a set decides nothing.
-/

namespace DocAudit

/-- The templates for pages about resources and for pages about requests. -/
structure Templates where
  resource : List TemplateItem
  api : List TemplateItem
  deriving Repr

/-- How links are checked: whether a link that leads out of the set is worth a warning, and which
pages need no links to them. -/
structure LinkRules where
  warnOnExternal : Bool
  entryPages : List String
  deriving DecidableEq, Repr

/-- All settings of a set of pages. -/
structure Settings where
  naming : TypeNaming
  boilerplate : List String
  tables : TableRules
  templates : Templates
  links : LinkRules
  maxWorkers : Option Nat
  deriving Repr

namespace Settings

/-! ## Stock settings -/

/-- The stock headers of columns. -/
def stockColumns : ColumnWords where
  name := ["Parameter Name", "Property Name", "Name", "Parameter", "Property"]
  type := ["Type", "Data Type"]
  description := ["Description", "Notes"]
  required := ["Required"]
  errorCode := ["Error Code", "Code", "Error"]
  httpStatus := ["HTTP Status", "HTTP Status Code", "Status Code"]
  scope := ["Scope", "Scope Name", "Permission"]
  scopeTitle := ["Title", "Display Name"]
  member := ["Member", "Enum Value"]
  value := ["Value"]
  header := ["Header", "Header Name"]

/-- The stock rules for tables. -/
def stockHeadings : List HeadingRule :=
  [⟨"Path parameters", .pathParameters, false⟩, ⟨"Query parameters", .queryParameters, false⟩,
   ⟨"Request headers", .headers, false⟩, ⟨"Response headers", .responseHeaders, false⟩,
   ⟨"Request body", .requestBody, false⟩, ⟨"Relationships", .navigationProperties, false⟩,
   ⟨"Properties", .properties, false⟩, ⟨"Error", .errorCodes, false⟩,
   ⟨"Permissions", .authScopes, false⟩, ⟨"Enum values", .enumValues, false⟩,
   ⟨"Values", .enumValues, true⟩]

/-- A slot for one heading. -/
def slot (level : Nat) (title : String) (required : Bool) (children : List TemplateItem) :
    TemplateItem :=
  .slot { level, title, required, repeatable := false, children }

/-- A slot for the heading of an example. -/
def exampleSlot (title : String) : TemplateItem :=
  slot 2 title true [slot 3 "Request" true [], slot 3 "Response" true []]

/-- The stock templates. -/
def stockTemplates : Templates where
  resource :=
    [slot 1 "* resource type" true
      [slot 2 "Methods" false [], slot 2 "Properties" true [], slot 2 "Relationships" false [],
       slot 2 "JSON representation" true []]]
  api :=
    [slot 1 "*" true
      [slot 2 "Permissions" false [], slot 2 "HTTP request" true [],
       slot 2 "Optional query parameters" false [], slot 2 "Request headers" true [],
       slot 2 "Request body" true [], slot 2 "Response" true [],
       .oneOf [exampleSlot "Examples", exampleSlot "Example"]]]

/-- The stock settings. -/
def stock : Settings where
  naming := ⟨none, []⟩
  boilerplate := ["Namespace:", "[!INCLUDE"]
  tables := ⟨stockHeadings, stockColumns⟩
  templates := stockTemplates
  links := ⟨false, ["index.md", "README.md"]⟩
  maxWorkers := none

/-! ## Use -/

/-- Whether a paragraph is boilerplate, and so no description. -/
def isBoilerplate (settings : Settings) (paragraph : String) : Bool :=
  let text := Text.trimStart paragraph.toList
  settings.boilerplate.any fun start => start.toList.isPrefixOf text

end Settings

end DocAudit
