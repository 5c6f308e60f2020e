import DocAudit.Request
import DocAudit.Resource
import DocAudit.Table.Basic

/-!
# Requests with their responses

A method is a documented request together with what the page tells about it: the response,
parameters and errors.
-/

namespace DocAudit

/-- A response with the metadata of its block. -/
structure Response where
  content : String
  metadata : CodeMetadata
  deriving DecidableEq, Repr

/-- A documented request.  `parameters` are given in its path, query and headers, `bodyParameters`
in its body. -/
structure Method where
  identifier : String
  title : Option String
  description : Option String
  request : String
  response : Option Response
  simulatedResponse : Option String
  testParams : List String
  scopes : List String
  apiVersions : List String
  tags : List String
  expectsError : Bool
  errors : List ErrorRow
  parameters : List Parameter
  bodyParameters : List Parameter
  file : String
  line : Nat
  deriving Repr

namespace Method

/-- The method that an annotated request defines. -/
def ofRequest (identifier request : String) (metadata : CodeMetadata) (origin : BlockOrigin) :
    Method :=
  { identifier
    title := origin.title
    description := origin.description
    request
    response := none
    simulatedResponse := none
    testParams := []
    scopes := metadata.scopes
    apiVersions := metadata.apiVersions
    tags := metadata.tags
    expectsError := metadata.expectsError
    errors := []
    parameters := []
    bodyParameters := []
    file := origin.file
    line := origin.line }

/-- The request line, if the request starts with one. -/
def requestLine? (method : Method) : Option RequestLine :=
  RequestLine.read? method.request

/-- The logical route of the request. -/
def route? (method : Method) : Option String :=
  Route.ofRequest? method.request

end Method

end DocAudit
