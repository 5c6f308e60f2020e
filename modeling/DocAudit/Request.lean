import DocAudit.Text.Digit
import DocAudit.Text.Lowercase
import DocAudit.Text.Split
import DocAudit.Text.Uuid

/-!
# Request lines and routes

The first line of an HTTP request names a method and a target.  Two requests are to the same
operation if their targets have the same logical route: variable parts of a target are all written
`{var}` in it.
-/

namespace DocAudit

/-! ## Request lines -/

/-- The first line of a request. -/
structure RequestLine where
  method : String
  target : String
  version : Option String
  deriving DecidableEq, Repr

namespace RequestLine

/-- Whether a word is a version of the protocol, such as `HTTP/1.1` or `HTTP/2`. -/
def isVersion (word : List Char) : Bool :=
  match "HTTP/".toList.isPrefixOf? word with
  | some [major] => Text.isDigit major
  | some [major, '.', minor] => Text.isDigit major && Text.isDigit minor
  | _ => false

/-- Whether a word may be the name of a method. -/
def isMethod (word : List Char) : Bool :=
  !word.isEmpty && word.all Char.isAlpha

/-- The request line with some words, for a known version of the protocol. -/
def ofWords? (method target : List Char) (version : Option (List Char)) : Option RequestLine :=
  if isMethod method && version.all isVersion then
    some ⟨.ofList (method.map Char.toUpper), .ofList target, version.map String.ofList⟩
  else none

/-- The request line of a request: the first line that is not blank. -/
def read? (request : String) : Option RequestLine :=
  match ((Text.lines request.toList).map Text.words).find? (!·.isEmpty) with
  | some [method, target] => ofWords? method target none
  | some [method, target, version] => ofWords? method target (some version)
  | _ => none

end RequestLine

/-! ## Routes -/

namespace Route

/-- The mark of a variable part. -/
def variablePart : List Char := "{var}".toList

/-- The path of a target: without scheme and host, query and fragment. -/
def path (target : List Char) : List Char :=
  let localPart :=
    match Text.cutAround "://".toList target with
    | some (_, rest) =>
      match Text.cutFirst '/' rest with
      | some (_, path) => '/' :: path
      | none => ['/']
    | none => target
  localPart.takeWhile fun c => c != '?' && c != '#'

/-- Copies a text with the arguments in each pair of parentheses masked, skipping the first `skip`
characters. -/
def maskArgumentsFrom : Nat → List Char → List Char
  | _, [] => []
  | skip + 1, _ :: rest => maskArgumentsFrom skip rest
  | 0, c :: rest =>
    match c, Text.cutFirst ')' rest with
    | '(', some (arguments@(_ :: _), _) =>
      '(' :: variablePart ++ ')' :: maskArgumentsFrom (arguments.length + 1) rest
    | _, _ => c :: maskArgumentsFrom 0 rest

/-- Whether a whole part of a path is variable: a placeholder, a quoted or numeric key, or a
UUID. -/
def isVariable (part : List Char) : Bool :=
  (part.head? == some '{' && part.getLast? == some '}') ||
    (part.head? == some '\'' && part.getLast? == some '\'') ||
    part.head?.any Char.isDigit || Text.isUuid part

/-- A part of a path as it stands in a route. -/
def part (text : List Char) : List Char :=
  if isVariable text then variablePart else maskArgumentsFrom 0 (Text.lower text)

/-- The parts of the route of a target. -/
def parts (target : String) : List (List Char) :=
  (Text.wordsBy (· == '/') (path target.toList)).map part

/-- The logical route of a target. -/
def ofTarget (target : String) : String :=
  .ofList ('/' :: Text.join ['/'] (parts target))

end Route

/-- The logical route of a request, if it starts with a request line. -/
def Route.ofRequest? (request : String) : Option String :=
  (RequestLine.read? request).map fun line => ofTarget line.target

end DocAudit
