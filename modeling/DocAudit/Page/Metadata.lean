import DocAudit.Json.Record
import DocAudit.Text.Lowercase
import DocAudit.Text.Split

/-!
# Metadata in comments

Comments of a page hold metadata in JSON.  A comment right before a block of code says what the
block documents (`CodeMetadata`); a comment of the type `#page.annotation` is about the page itself
(`PageMetadata`).
-/

namespace DocAudit

/-! ## Comments -/

/-- The text of a comment without its marks. -/
def commentText (comment : String) : List Char :=
  let text := Text.trim comment.toList
  let text := ("<!--".toList.isPrefixOf? text).getD text
  let text := ("-->".toList.isSuffixOf? text).getD text
  Text.trim text

/-! ## Blocks of code -/

/-- What a block of code documents. -/
inductive BlockRole where
  | resource
  | request
  | response
  | example
  | samples
  | simulatedResponse
  | testParams
  | ignored
  deriving DecidableEq, Repr

namespace BlockRole

/-- The word for a role. -/
def name : BlockRole → String
  | resource => "resource"
  | request => "request"
  | response => "response"
  | .example => "example"
  | samples => "samples"
  | simulatedResponse => "simulatedResponse"
  | testParams => "testParams"
  | ignored => "ignored"

/-- All words for roles, in lower case. -/
def vocabulary : List (String × BlockRole) :=
  [("resource", resource), ("request", request), ("response", response), ("example", .example),
   ("samples", samples), ("sample", samples), ("simulatedresponse", simulatedResponse),
   ("testparams", testParams), ("ignored", ignored), ("ignore", ignored)]

/-- The role with a name; case, dashes and underscores do not count. -/
def ofName? (name : String) : Option BlockRole :=
  let bare := (name.toList.filter fun c => c != '-' && c != '_').flatMap Text.lowerChar
  vocabulary.lookup (.ofList bare)

/-- What is said about a name that no role has. -/
def unknownName (name : String) : String :=
  s!"unknown blockType '{name}'"

end BlockRole

/-- The metadata of a block of code. -/
structure CodeMetadata where
  role : Option String
  resourceType : Option String
  names : List String
  optionalProperties : List String
  navigationProperties : List String
  keyProperty : Option String
  baseType : Option String
  isAbstract : Bool
  isOpen : Bool
  isCollection : Bool
  isTruncated : Bool
  expectsError : Bool
  scopes : List String
  apiVersions : List String
  tags : List String
  deriving DecidableEq, Repr

/-- The names in a text that should be a list: the whole text, unless it is blank. -/
def singleName (text : String) : List String :=
  let name := Text.trim text.toList
  if name.isEmpty then [] else [.ofList name]

/-- The words in a text that should be a list, between blanks and commas. -/
def listedWords (text : String) : List String :=
  (Text.wordsBy (fun c => Text.isBlank c || c == ',') text.toList).map String.ofList

namespace CodeMetadata

open Json FieldReader

/-- The names of the fields, in order. -/
def fieldNames : List (List String) :=
  [["blockType"], ["@odata.type", "resourceType"], ["name", "methodName"],
   ["optionalProperties"], ["navigationProperties"], ["keyProperty"], ["baseType"], ["abstract"],
   ["openType"], ["isCollection"], ["truncated"], ["expectError"], ["scopes"], ["apiVersions"],
   ["tags"]]

/-- Reads the fields in order. -/
def reader : FieldReader Written CodeMetadata := do
  let role ← field none Written.optionalText?
  let resourceType ← field none Written.optionalText?
  let names ← field [] (Written.textsOr? singleName)
  let optionalProperties ← field [] Written.texts?
  let navigationProperties ← field [] Written.texts?
  let keyProperty ← field none Written.optionalText?
  let baseType ← field none Written.optionalText?
  let isAbstract ← field false Written.bool?
  let isOpen ← field false Written.bool?
  let isCollection ← field false Written.bool?
  let isTruncated ← field false Written.bool?
  let expectsError ← field false Written.bool?
  let scopes ← field [] (Written.textsOr? listedWords)
  let apiVersions ← field [] (Written.textsOr? listedWords)
  let tags ← field [] (Written.textsOr? listedWords)
  return {
    role, resourceType, names, optionalProperties, navigationProperties, keyProperty, baseType,
    isAbstract, isOpen, isCollection, isTruncated, expectsError, scopes, apiVersions, tags }

/-- The metadata in a comment. -/
def read? (comment : String) : Option CodeMetadata := do
  (← Written.read? (commentText comment)).readFields? reader fieldNames

/-- The role as it is named; a missing role is a role with an empty name. -/
def roleName (metadata : CodeMetadata) : String :=
  metadata.role.getD ""

/-- The role of the block, if its name is known. -/
def role? (metadata : CodeMetadata) : Option BlockRole :=
  BlockRole.ofName? metadata.roleName

end CodeMetadata

/-! ## Pages -/

/-- The metadata of a page. -/
structure PageMetadata where
  type : String
  title : Option String
  description : Option String
  keywords : List String
  area : Option String
  tocPath : Option String
  space : Option String
  deriving DecidableEq, Repr

namespace PageMetadata

open Json FieldReader

/-- The type of a comment with metadata of the page. -/
def typeName : String := "#page.annotation"

/-- The names of the fields, in order. -/
def fieldNames : List (List String) :=
  [["type"], ["title"], ["description"], ["keywords"], ["section"], ["tocPath"], ["namespace"]]

/-- Reads the fields in order. -/
def reader : FieldReader Written PageMetadata := do
  let type ← field "" Written.text?
  let title ← field none Written.optionalText?
  let description ← field none Written.optionalText?
  let keywords ← field [] (Written.textsOr? listedWords)
  let area ← field none Written.optionalText?
  let tocPath ← field none Written.optionalText?
  let space ← field none Written.optionalText?
  return { type, title, description, keywords, area, tocPath, space }

/-- The metadata in a comment, if the comment is about the page. -/
def read? (comment : String) : Option PageMetadata := do
  let metadata ← (← Written.read? (commentText comment)).readFields? reader fieldNames
  if Text.equalIgnoringAsciiCase metadata.type.toList typeName.toList then some metadata else none

/-- Whether a title is given that is not blank. -/
def hasTitle (metadata : PageMetadata) : Bool :=
  metadata.title.any fun title => !(Text.trim title.toList).isEmpty

end PageMetadata

end DocAudit
