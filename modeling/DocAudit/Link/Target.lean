import DocAudit.Text.PercentEncoding
import DocAudit.Text.Split

/-!
# Link targets

A target is external if it starts with a scheme, a bookmark of the same page if it starts with a
number sign, and otherwise a path, perhaps with a query and with a bookmark of the page that the
path leads to.  The path is relative to the directory of the page with the link, unless it starts
with a slash.
-/

namespace DocAudit

/-- What kind of target a link has.  The path of a relative link is decoded. -/
inductive LinkTarget where
  | malformed
  | external
  | samePage (bookmark : String)
  | relative (path : List Char) (bookmark : Option String)
  deriving DecidableEq, Repr

namespace LinkTarget

/-- Whether a character may occur in a scheme. -/
def isSchemeChar (c : Char) : Bool :=
  c.isAlphanum || c == '+' || c == '-' || c == '.'

/-- Whether a target starts with a scheme. -/
def hasScheme (target : List Char) : Bool :=
  match Text.cutFirst ':' target with
  | some (scheme, _) => scheme.head?.any Char.isAlpha && scheme.all isSchemeChar
  | none => false

/-- A path without the query behind it, decoded. -/
def decodedPath (text : List Char) : List Char :=
  Text.percentDecode (text.takeWhile (· != '?'))

/-- Reads the target of a link. -/
def read (text : String) : LinkTarget :=
  let target := Text.trim text.toList
  if target.isEmpty || target.any Text.isBlank then .malformed
  else if hasScheme target then .external
  else
    match target with
    | '#' :: name => .samePage (.ofList name)
    | _ =>
      match Text.cutFirst '#' target with
      | some (path, name) => .relative (decodedPath path) (some (.ofList name))
      | none => .relative (decodedPath target) none

/-! ## Where a path leads -/

/-- The segments of a path. -/
def segments (path : List Char) : List String :=
  (Text.splitAt '/' path).map String.ofList

/-- Walks along segments from a directory, given by the names that lead to it, the last one first.
A walk must not leave the set. -/
def walk : List String → List String → Option (List String)
  | place, [] => some place
  | place, segment :: rest =>
    if segment = "" || segment = "." then walk place rest
    else if segment = ".." then
      match place with
      | [] => none
      | _ :: around => walk around rest
    else walk (segment :: place) rest

/-- The names that lead to the directory where a path of a page starts, the last one first. -/
def base (source : String) (path : List Char) : List String :=
  if path.head? == some '/' then [] else (segments source.toList).dropLast.reverse

/-- The names that lead to where a path of a page leads, unless it leaves the set. -/
def destination? (source : String) (path : List Char) : Option (List String) :=
  (walk (base source path) (segments path)).map List.reverse

end LinkTarget

end DocAudit
