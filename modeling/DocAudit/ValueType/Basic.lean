import DocAudit.ValueType.Simple

/-!
# Types of values, and parameters

The type of a property or parameter is simple, a collection, or an object.  An object may have the
name of a documented type, which may be an enumeration, and an example may show its members.  A
collection of collections is one collection of several dimensions.

Two types are compared without regard to the members that an example shows (`same`).  Some types say
less than others (`isLessSpecific`): an object without a name says least, and a string may turn out
to be a date.
-/

namespace DocAudit

/-- Where a parameter is given in a request or response. -/
inductive Location where
  | path
  | queryString
  | header
  | jsonObject
  deriving DecidableEq, Repr

/-- The word for a location in the data of a report. -/
def Location.name : Location → String
  | .path => "path"
  | .queryString => "query-string"
  | .header => "header"
  | .jsonObject => "json-object"

mutual

/-- The type of a value. -/
inductive ValueType where
  | simple (type : SimpleType)
  | collection (element : ValueType) (dimensions : Nat)
  | object (name : Option String) (isEnum : Bool) (members : Option (List Parameter))

/-- A parameter of a request, or a property of a resource.  What the documentation does not say
about it is missing; `writtenValue` is the text that its type was found from. -/
structure Parameter where
  name : String
  title : Option String
  description : Option String
  type : ValueType
  location : Location
  required : Option Bool
  optional : Option Bool
  writtenValue : Option String
  navigable : Bool

end

deriving instance Repr for ValueType, Parameter

instance : Inhabited ValueType := ⟨.simple .string⟩

namespace ValueType

/-! ## Making types -/

/-- The type of strings. -/
def string : ValueType := .simple .string

/-- An object of which nothing is known. -/
def untyped : ValueType := .object none false none

/-- The documented type with a name. -/
def named (name : String) : ValueType := .object (some name) false none

/-- The collection of values of a type. -/
def collectionOf : ValueType → ValueType
  | .collection element dimensions => .collection element (dimensions + 1)
  | type => .collection type 1

/-! ## Looking at types -/

/-- Whether a type is a collection. -/
def isCollection : ValueType → Bool
  | .collection _ _ => true
  | _ => false

/-- Whether a type is that of strings. -/
def isString : ValueType → Bool
  | .simple .string => true
  | _ => false

/-- The type of the elements of a collection, or the type itself. -/
def element : ValueType → ValueType
  | .collection element _ => element
  | type => type

/-- The name of the documented type that a type refers to, directly or through a collection. -/
def customName (type : ValueType) : Option String :=
  match type.element with
  | .object name _ _ => name
  | _ => none

/-- Whether two types are equal but for the members shown by examples. -/
def same : ValueType → ValueType → Bool
  | .simple a, .simple b => a == b
  | .collection a m, .collection b n => m == n && same a b
  | .object a aEnum _, .object b bEnum _ => a == b && aEnum == bEnum
  | _, _ => false

/-! ## Specificity -/

/-- Whether one simple type says less than another one. -/
def simpleLess : SimpleType → SimpleType → Bool
  | .string, .guid | .string, .dateTimeOffset | .string, .duration | .string, .date
  | .string, .timeOfDay | .string, .binary => true
  | .int64, .int32 | .int64, .int16 | .int64, .byte | .int64, .boolean | .int64, .double
  | .int64, .float | .int64, .single => true
  | .double, .float | .double, .single => true
  | _, _ => false

/-- Whether a type says less than another one, so that the other one may stand for it. -/
def isLessSpecific : ValueType → ValueType → Bool
  | .object none false _, other => !other.same untyped
  | .simple a, .simple b => simpleLess a b
  | .simple .string, .object _ isEnum _ => isEnum
  | .collection a m, .collection b n => m == n && isLessSpecific a b
  | _, _ => false

/-! ## Text -/

/-- The text of a type in messages. -/
def text : ValueType → String
  | .simple type => type.name
  | .collection element dimensions =>
    let repeated (part : String) := String.join (List.replicate dimensions part)
    repeated "Collection(" ++ element.text ++ repeated ")"
  | .object (some name) true _ => name ++ " enum"
  | .object (some name) false _ => name
  | .object none _ _ => "Object"

end ValueType

/-- A parameter of which only name, type and location are known. -/
def Parameter.ofType (name : String) (type : ValueType) (location : Location) : Parameter :=
  { name := name, title := none, description := none, type := type, location := location,
    required := none, optional := none, writtenValue := none, navigable := false }

instance : Inhabited Parameter := ⟨.ofType "" .untyped .jsonObject⟩

end DocAudit
