import DocAudit.Json.Reader
import DocAudit.Page.Metadata
import DocAudit.Parameter
import DocAudit.TypeName
import DocAudit.ValueType.Literal

/-!
# Resources

A resource is a documented type.  It is defined by a block of code with an example in JSON, whose
members show its properties, and by the metadata of that block.
-/

namespace DocAudit

/-- Where a block of code stands: its page and line, and the title and description of the page. -/
structure BlockOrigin where
  file : String
  line : Nat
  title : Option String
  description : Option String
  deriving DecidableEq, Repr

/-- A definition of a resource.  `base` is the index of the first definition of its base type among
all resources of the set, once it is known. -/
structure Resource where
  name : String
  title : Option String
  description : Option String
  parameters : List Parameter
  baseType : Option String
  keyProperty : Option String
  isAbstract : Bool
  isOpen : Bool
  optionalProperties : List String
  navigationProperties : List String
  isTruncated : Bool
  file : String
  line : Nat
  base : Option Nat
  deriving Repr

/-- What a message says in place of the reason why a text is not JSON. -/
def Json.unreadable : String := "<json-error>"

/-! ## Properties shown by an example -/

namespace Property

/-- Whether a member of an example is a property, and not data about it. -/
def isProperty (name : String) : Bool :=
  name.toList.head? != some '@' && !Text.occursIn "@odata.".toList name.toList

/-- The member of an object that tells its type. -/
def typeMember : String := "@odata.type"

/-- The text of a plain value of a property. -/
def writtenText : Json.Value → Option String
  | .string text => some text
  | .number value => some value.text
  | .bool value => some (if value then "true" else "false")
  | _ => none

/-- A property with a type and a value. -/
def shown (name : String) (type : ValueType) (value : Json.Value) : Parameter :=
  { Parameter.ofType name type .jsonObject with writtenValue := writtenText value }

mutual

/-- The type of a value in an example. -/
def typeOf (naming : TypeNaming) : Json.Value → ValueType
  | .string text => Literal.typeOfString text
  | .number value => .simple (if value.isInteger then .int64 else .double)
  | .bool _ => .simple .boolean
  | .array items => .collectionOf (typeOfFirst naming items)
  | .object members =>
    match (members.lookup typeMember).bind Json.Value.string? with
    | some name => .named (.ofList (naming.normalize name.toList))
    | none => .object none false (some (ofMembers naming members))
  | .null => .untyped

/-- The type of the first item of an array. -/
def typeOfFirst (naming : TypeNaming) : List Json.Value → ValueType
  | [] => .untyped
  | item :: _ => typeOf naming item

/-- The properties that the members of an object show. -/
def ofMembers (naming : TypeNaming) : List (String × Json.Value) → List Parameter
  | [] => []
  | (name, value) :: rest =>
    if isProperty name then shown name (typeOf naming value) value :: ofMembers naming rest
    else ofMembers naming rest

end

end Property

/-! ## Definitions -/

namespace Resource

/-- The namespace of a resource. -/
def namespace? (resource : Resource) : Option String :=
  TypeName.namespace? resource.name

/-- Whether a property is named as optional. -/
def isOptional (resource : Resource) (name : String) : Bool :=
  resource.optionalProperties.contains name

/-- The members of the object that an example shows.  Of a collection its first item counts. -/
def exampleMembers? (isCollection : Bool) (value : Json.Value) :
    Option (List (String × Json.Value)) :=
  match value with
  | .array items => if isCollection then items.head?.bind Json.Value.members? else none
  | other => other.members?

/-- The properties shown by an example in JSON, if it is one of the resource.  A truncated example
need not be JSON. -/
def exampleProperties (naming : TypeNaming) (metadata : CodeMetadata) (name : String) (line : Nat)
    (json : String) : Audit (Option (List Parameter)) :=
  match Json.Value.read? json.toList with
  | some value =>
    match exampleMembers? metadata.isCollection value with
    | some members =>
      pure (some ((Property.ofMembers naming members).map fun parameter =>
        { parameter with navigable := metadata.navigationProperties.contains parameter.name }))
    | none => do
      Audit.error .resourceJsonInvalid s!"Resource {name} on line {line} is not a JSON object"
      return none
  | none =>
    if metadata.isTruncated then do
      Audit.report (.note .info
        s!"Skipping property inference for truncated resource {name}: {Json.unreadable}")
      return some []
    else do
      Audit.error .resourceJsonInvalid
        s!"Resource {name} on line {line} has invalid JSON: {Json.unreadable}"
      return none

/-- The name of the resource that metadata are about; empty if they name none. -/
def nameIn (metadata : CodeMetadata) : String :=
  .ofList (TypeName.withoutMark (Text.trim (metadata.resourceType.getD "").toList))

/-- The name of the base type that metadata give. -/
def baseTypeIn? (metadata : CodeMetadata) : Option String :=
  ((metadata.baseType.map fun name => Text.trim name.toList).filter (!·.isEmpty)).map
    fun name => .ofList (TypeName.withoutMark name)

/-- The resource that an annotated example defines. -/
def ofExample (naming : TypeNaming) (metadata : CodeMetadata) (json : String)
    (origin : BlockOrigin) : Audit (Option Resource) := do
  let name := nameIn metadata
  if name.isEmpty then
    Audit.error .missingResourceName
      s!"Resource on line {origin.line} has no @odata.type in its metadata"
    return none
  let parameters ← exampleProperties naming metadata name origin.line json
  return parameters.map fun parameters =>
    { name
      title := origin.title
      description := origin.description
      parameters
      baseType := baseTypeIn? metadata
      keyProperty := metadata.keyProperty
      isAbstract := metadata.isAbstract
      isOpen := metadata.isOpen
      optionalProperties := metadata.optionalProperties
      navigationProperties := metadata.navigationProperties
      isTruncated := metadata.isTruncated
      file := origin.file
      line := origin.line
      base := none }

end Resource

end DocAudit
