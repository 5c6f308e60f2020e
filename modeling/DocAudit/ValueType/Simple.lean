import DocAudit.Text.Blank
import DocAudit.Text.Lowercase

/-!
# Simple types

The fixed vocabulary of types without structure.  Most of them have several names; case does not
count, and neither does a leading `Edm.`.
-/

namespace DocAudit

/-- The simple types. -/
inductive SimpleType where
  | string
  | boolean
  | int16
  | int32
  | int64
  | float
  | double
  | single
  | byte
  | guid
  | date
  | timeOfDay
  | duration
  | dateTimeOffset
  | stream
  | binary
  | json
  deriving DecidableEq, Repr

namespace SimpleType

/-- The canonical name of a simple type. -/
def name : SimpleType → String
  | string => "String"
  | boolean => "Boolean"
  | int16 => "Int16"
  | int32 => "Int32"
  | int64 => "Int64"
  | float => "Float"
  | double => "Double"
  | single => "Single"
  | byte => "Byte"
  | guid => "Guid"
  | date => "Date"
  | timeOfDay => "TimeOfDay"
  | duration => "Duration"
  | dateTimeOffset => "DateTimeOffset"
  | stream => "Stream"
  | binary => "Binary"
  | json => "Json"

/-- All names of the simple types, in lower case. -/
def vocabulary : List (String × SimpleType) :=
  [("string", string), ("boolean", boolean), ("bool", boolean), ("int16", int16),
   ("short", int16), ("int32", int32), ("int", int32), ("integer", int32), ("int64", int64),
   ("long", int64), ("float", float), ("double", double), ("number", double),
   ("decimal", double), ("single", single), ("byte", byte), ("sbyte", byte), ("guid", guid),
   ("uuid", guid), ("date", date), ("timeofday", timeOfDay), ("time", timeOfDay),
   ("duration", duration), ("timespan", duration), ("datetimeoffset", dateTimeOffset),
   ("datetime", dateTimeOffset), ("stream", stream), ("binary", binary), ("json", json)]

/-- The simple type with a name. -/
def ofName? (name : List Char) : Option SimpleType :=
  let lowered := Text.lower (Text.trim name)
  let bare := ("edm.".toList.isPrefixOf? lowered).getD lowered
  vocabulary.lookup (.ofList bare)

end SimpleType

end DocAudit
