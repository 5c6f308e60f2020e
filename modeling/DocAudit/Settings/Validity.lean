import DocAudit.Settings.Basic

/-!
# Valid settings

Settings that can be read may still make no sense.  `Settings.fault?` gives the first fault, in a
fixed order.
-/

namespace DocAudit

/-- What is wrong with settings. -/
inductive SettingsFault where
  | badNamespace (space : String)
  | noNameColumn
  | emptyPattern (kind : TableKind)
  | emptyGroup (page : String)
  | badLevel (page title : String) (level : Nat)
  | noWorkers
  deriving DecidableEq, Repr

namespace SettingsFault

/-- What is said about a fault. -/
def message : SettingsFault → String
  | badNamespace space => s!"default_namespace '{space}' is not a dotted identifier"
  | noNameColumn => "tables.columns.name must not be empty"
  | emptyPattern kind => s!"tables.headers rule for '{kind.name}' has an empty match"
  | emptyGroup page => s!"outlines.{page}: condition group has no arguments"
  | badLevel page title level =>
    s!"outlines.{page}: header '{title}' has level {level} (must be 1-6)"
  | noWorkers => "processing.max_processes must be at least 1"

end SettingsFault

namespace TemplateItem

mutual

/-- The first fault of an item of the template for a type of pages. -/
def fault? (page : String) : TemplateItem → Option SettingsFault
  | .slot own => slotFault? page own
  | .all items => if items.isEmpty then some (.emptyGroup page) else faultOfAll? page items
  | .oneOf items => if items.isEmpty then some (.emptyGroup page) else faultOfAll? page items

/-- The first fault of a slot. -/
def slotFault? (page : String) : Slot → Option SettingsFault
  | ⟨level, title, _, _, children⟩ =>
    if 1 ≤ level && level ≤ 6 then faultOfAll? page children
    else some (.badLevel page title level)

/-- The first fault of items. -/
def faultOfAll? (page : String) : List TemplateItem → Option SettingsFault
  | [] => none
  | item :: rest => item.fault? page <|> faultOfAll? page rest

end

end TemplateItem

namespace Settings

/-- The fault of a default namespace. -/
def namespaceFault? (space : String) : Option SettingsFault :=
  let text := space.toList
  if text.isEmpty || text.head? == some '.' || text.getLast? == some '.' then
    some (.badNamespace space)
  else none

/-- The first fault of rules for tables. -/
def ruleFault? (rules : List HeadingRule) : Option SettingsFault :=
  (rules.find? fun rule => (Text.trim rule.pattern.toList).isEmpty).map (.emptyPattern ·.kind)

/-- The first fault of settings. -/
def fault? (settings : Settings) : Option SettingsFault :=
  settings.naming.defaultNamespace.bind namespaceFault? <|>
    (if settings.tables.columns.name.isEmpty then some .noNameColumn else none) <|>
    ruleFault? settings.tables.headings <|>
    TemplateItem.faultOfAll? "resource" settings.templates.resource <|>
    TemplateItem.faultOfAll? "api" settings.templates.api <|>
    (if settings.maxWorkers = some 0 then some .noWorkers else none)

end Settings

end DocAudit
