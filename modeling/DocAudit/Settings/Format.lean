import DocAudit.Settings.Basic
import DocAudit.Settings.Template

/-!
# Settings in TOML

The form of settings as a TOML value, for reading and for writing.  Reading knows every key: a key
that means nothing is a mistake.  A missing key means the stock value.
-/

namespace DocAudit

open Toml FieldReader

/-- A text that may be missing. -/
def optionalField (read? : Value → Option α) : FieldReader Value (Option α) :=
  field none fun value => (read? value).map some

/-! ## Reading -/

/-- Reads a list of values. -/
def listOf? (read? : Value → Option α) (value : Value) : Option (List α) :=
  value.items?.bind (·.mapM read?)

/-- Reads a kind of tables. -/
def TableKind.ofToml? (value : Value) : Option TableKind :=
  value.constantName?.bind TableKind.ofName?

namespace HeadingRule

/-- The names of the fields, in order. -/
def fieldNames : List String := ["match", "kind", "exact"]

/-- Reads the fields in order. -/
def reader : FieldReader Value HeadingRule := do
  let pattern ← requiredField (·.text?)
  let kind ← requiredField TableKind.ofToml?
  let exact ← field false (·.bool?)
  return { pattern, kind, exact }

/-- The rule that a value describes. -/
def ofToml? (value : Value) : Option HeadingRule :=
  value.readFields? reader fieldNames

/-- A rule as a value. -/
def toToml (rule : HeadingRule) : Value :=
  .table [("match", .string rule.pattern), ("kind", .string rule.kind.name),
    ("exact", .boolean rule.exact)]

end HeadingRule

namespace ColumnWords

/-- The names of the fields, in order. -/
def fieldNames : List String :=
  ["name", "type", "description", "required", "error_code", "http_status", "scope", "scope_title",
   "member", "value", "header"]

/-- Reads the fields in order; a missing one is taken from `stock`. -/
def reader (stock : ColumnWords) : FieldReader Value ColumnWords := do
  let name ← field stock.name (·.texts?)
  let type ← field stock.type (·.texts?)
  let description ← field stock.description (·.texts?)
  let required ← field stock.required (·.texts?)
  let errorCode ← field stock.errorCode (·.texts?)
  let httpStatus ← field stock.httpStatus (·.texts?)
  let scope ← field stock.scope (·.texts?)
  let scopeTitle ← field stock.scopeTitle (·.texts?)
  let member ← field stock.member (·.texts?)
  let value ← field stock.value (·.texts?)
  let header ← field stock.header (·.texts?)
  return { name, type, description, required, errorCode, httpStatus, scope, scopeTitle, member,
           value, header }

/-- The headers of columns that a value describes. -/
def ofToml? (value : Value) : Option ColumnWords :=
  value.readFields? (reader Settings.stockColumns) fieldNames

/-- A list of texts as a value. -/
def textsToToml (texts : List String) : Value :=
  .array (texts.map .string)

/-- The headers of columns as a value. -/
def toToml (columns : ColumnWords) : Value :=
  .table [("name", textsToToml columns.name), ("type", textsToToml columns.type),
    ("description", textsToToml columns.description), ("required", textsToToml columns.required),
    ("error_code", textsToToml columns.errorCode), ("http_status", textsToToml columns.httpStatus),
    ("scope", textsToToml columns.scope), ("scope_title", textsToToml columns.scopeTitle),
    ("member", textsToToml columns.member), ("value", textsToToml columns.value),
    ("header", textsToToml columns.header)]

end ColumnWords

namespace TableRules

/-- The rules for tables that a value describes. -/
def ofToml? (value : Value) : Option TableRules :=
  value.readFields? (do
    let headings ← field Settings.stockHeadings (listOf? HeadingRule.ofToml?)
    let columns ← field Settings.stockColumns ColumnWords.ofToml?
    return { headings, columns }) ["headers", "columns"]

/-- The rules for tables as a value. -/
def toToml (rules : TableRules) : Value :=
  .table [("headers", .array (rules.headings.map (·.toToml))), ("columns", rules.columns.toToml)]

end TableRules

namespace Templates

/-- The templates that a value describes. -/
def ofToml? (value : Value) : Option Templates :=
  value.readFields? (do
    let resource ← field Settings.stockTemplates.resource TemplateItem.ofToml?
    let api ← field Settings.stockTemplates.api TemplateItem.ofToml?
    return { resource, api }) ["resource", "api"]

/-- The templates as a value. -/
def toToml (templates : Templates) : Value :=
  .table [("resource", .array (TemplateItem.toTomlAll templates.resource)),
    ("api", .array (TemplateItem.toTomlAll templates.api))]

end Templates

namespace LinkRules

/-- The rules for links that a value describes. -/
def ofToml? (value : Value) : Option LinkRules :=
  value.readFields? (do
    let warnOnExternal ← field Settings.stock.links.warnOnExternal (·.bool?)
    let entryPages ← field Settings.stock.links.entryPages (·.texts?)
    return { warnOnExternal, entryPages }) ["warn_on_external", "toc_roots"]

/-- The rules for links as a value. -/
def toToml (rules : LinkRules) : Value :=
  .table [("warn_on_external", .boolean rules.warnOnExternal),
    ("toc_roots", ColumnWords.textsToToml rules.entryPages)]

end LinkRules

namespace Settings

/-- Numbers of workers are less than this. -/
def workerBound : Nat := 1 <<< 63

/-- The number of workers that a value describes. -/
def workersOfToml? (value : Value) : Option (Option Nat) :=
  value.readFields? (optionalField (·.natBelow? workerBound)) ["max_processes"]

/-- The names of the fields, in order. -/
def fieldNames : List String :=
  ["default_namespace", "type_name_exclusions", "description_boilerplate_prefixes", "tables",
   "outlines", "links", "processing"]

/-- Reads the fields in order. -/
def reader : FieldReader Value Settings := do
  let defaultNamespace ← optionalField (·.text?)
  let exclusions ← field stock.naming.exclusions (·.texts?)
  let boilerplate ← field stock.boilerplate (·.texts?)
  let tables ← field stock.tables TableRules.ofToml?
  let templates ← field stock.templates Templates.ofToml?
  let links ← field stock.links LinkRules.ofToml?
  let maxWorkers ← field stock.maxWorkers workersOfToml?
  return { naming := { defaultNamespace, exclusions }, boilerplate, tables, templates, links,
           maxWorkers }

/-- The settings that a value describes. -/
def ofToml? (value : Value) : Option Settings :=
  value.readFields? reader fieldNames

/-- The entry of a value that may be missing. -/
def optionalEntry (key : String) (value : Option Value) : List (String × Value) :=
  (value.map fun value => (key, value)).toList

/-- The settings as a value; what is missing has no key. -/
def toToml (settings : Settings) : Value :=
  .table (optionalEntry "default_namespace" (settings.naming.defaultNamespace.map .string) ++
    [("type_name_exclusions", ColumnWords.textsToToml settings.naming.exclusions),
     ("description_boilerplate_prefixes", ColumnWords.textsToToml settings.boilerplate),
     ("tables", settings.tables.toToml), ("outlines", settings.templates.toToml),
     ("links", settings.links.toToml),
     ("processing",
       .table (optionalEntry "max_processes"
         (settings.maxWorkers.map fun count => .integer count)))])

end Settings

end DocAudit
