import DocAudit.Text.Lowercase
import DocAudit.Text.Split

/-!
# Names of types

A documented type has a dotted name: a namespace and, behind the last point, the name proper, whose
first letter is written in lower case.  A bare name gets the default namespace, if there is one.
-/

namespace DocAudit

/-- How names of types are written on the pages of a set: the namespace of bare names, and the names
whose first letter stays as it is. -/
structure TypeNaming where
  defaultNamespace : Option String
  exclusions : List String
  deriving DecidableEq, Repr

namespace TypeName

/-- A name with its first character in lower case. -/
def lowerCamel (name : List Char) : List Char :=
  match name with
  | [] => []
  | first :: rest => Text.lowerChar first ++ rest

/-- The namespace of a name, if it is not empty, and the name behind it. -/
def splitNamespace (name : String) : Option String × String :=
  match Text.cutLast '.' name.toList with
  | some (space, own) => if space.isEmpty then (none, name) else (some (.ofList space), .ofList own)
  | none => (none, name)

/-- The namespace of a name. -/
def namespace? (name : String) : Option String :=
  (splitNamespace name).1

/-- A name in a namespace, unless the name has a point already. -/
def qualify (name : List Char) (space : Option String) : List Char :=
  match space with
  | some space =>
    if !name.contains '.' && !space.isEmpty then space.toList ++ '.' :: name else name
  | none => name

/-- A name without the number signs at its start. -/
def withoutMark (name : List Char) : List Char :=
  Text.trimStartBy (· == '#') name

end TypeName

namespace TypeNaming

/-- The name proper with its first letter in lower case, unless it is excluded. -/
def ownName (naming : TypeNaming) (own : List Char) : List Char :=
  if naming.exclusions.contains (.ofList own) then own else TypeName.lowerCamel own

/-- A name as it is used for comparison: without number signs, the name proper in lower camel case,
and with a namespace if it has one or there is a default. -/
def normalize (naming : TypeNaming) (name : List Char) : List Char :=
  let name := TypeName.withoutMark name
  match Text.cutLast '.' name with
  | some (space, own) => space ++ '.' :: naming.ownName own
  | none => TypeName.qualify (naming.ownName name) naming.defaultNamespace

end TypeNaming

end DocAudit
