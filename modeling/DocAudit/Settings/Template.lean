import DocAudit.Outline.Template
import DocAudit.Toml.Record

/-!
# Templates in TOML

An item of a template is a record with the fields of a slot, or a table with the keys `condition`
and `arguments` for a group.  A table that can be read as a group is one, whatever other keys it
has.

The items of a list stand in arrays inside of tables, so every value is read in two ways at once: as
an item and as a list of items.
-/

namespace DocAudit.TemplateItem

open FieldReader

/-- A value with what it is as an item and as a list of items. -/
structure Reading where
  value : Toml.Value
  item? : Option TemplateItem
  items? : Option (List TemplateItem)

/-- The names of the fields of a slot, in order. -/
def slotFields : List String := ["level", "title", "required", "allow_multiple", "children"]

/-- Levels of headings are less than this. -/
def levelBound : Nat := 256

/-- Reads the fields of a slot in order. -/
def slotReader : FieldReader Reading TemplateItem := do
  let level ← requiredField (·.value.natBelow? levelBound)
  let title ← requiredField (·.value.text?)
  let required ← field false (·.value.bool?)
  let repeatable ← field false (·.value.bool?)
  let children ← field [] (·.items?)
  return .slot { level, title, required, repeatable, children }

/-- The group with a condition. -/
def group? (condition : String) (items : List TemplateItem) : Option TemplateItem :=
  if condition = "and" then some (.all items)
  else if condition = "or" then some (.oneOf items)
  else none

/-- The group that the entries of a table describe. -/
def groupOf? (entries : List (String × Reading)) : Option TemplateItem := do
  group? (← (← entries.lookup "condition").value.text?) (← (← entries.lookup "arguments").items?)

mutual

/-- Reads a value in both ways. -/
def readingOf : Toml.Value → Reading
  | .array values =>
    let readings := readingsOf values
    { value := .array values
      item? := do slotReader.run' (← Record.positional? slotFields.length readings)
      items? := readings.mapM (·.item?) }
  | .table entries =>
    let readings := entriesOf entries
    { value := .table entries
      item? := groupOf? readings <|> do slotReader.run' (← Record.named? slotFields readings)
      items? := none }
  | value => ⟨value, none, none⟩

/-- Reads values in both ways. -/
def readingsOf : List Toml.Value → List Reading
  | [] => []
  | value :: rest => readingOf value :: readingsOf rest

/-- Reads the values of entries in both ways. -/
def entriesOf : List (String × Toml.Value) → List (String × Reading)
  | [] => []
  | (key, value) :: rest => (key, readingOf value) :: entriesOf rest

end

/-- The template that a value describes. -/
def ofToml? (value : Toml.Value) : Option (List TemplateItem) :=
  (readingOf value).items?

/-! ## Writing -/

mutual

/-- An item as a value. -/
def toToml : TemplateItem → Toml.Value
  | .slot own => slotToToml own
  | .all items => .table [("condition", .string "and"), ("arguments", .array (toTomlAll items))]
  | .oneOf items => .table [("condition", .string "or"), ("arguments", .array (toTomlAll items))]

/-- A slot as a value. -/
def slotToToml : Slot → Toml.Value
  | ⟨level, title, required, repeatable, children⟩ =>
    .table [("level", .integer level), ("title", .string title), ("required", .boolean required),
      ("allow_multiple", .boolean repeatable), ("children", .array (toTomlAll children))]

/-- Items as values. -/
def toTomlAll : List TemplateItem → List Toml.Value
  | [] => []
  | item :: rest => item.toToml :: toTomlAll rest

end

end DocAudit.TemplateItem
