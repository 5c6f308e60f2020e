import DocAudit.Issue.Audit
import DocAudit.Resource
import DocAudit.Text.Sorted

/-!
# Definitions of one name

A resource may be defined on several pages.  The definitions of one name belong together: they
should agree on the base type, and a base type that only some of them declare counts for all.
-/

namespace DocAudit.Definitions

/-- The different names of resources, in the order in which they first occur. -/
def names (resources : List Resource) : List String :=
  resources.foldl (fun names resource =>
    if names.contains resource.name then names else names ++ [resource.name]) []

/-- The positions of the definitions of a name. -/
def positions (resources : List Resource) (name : String) : List Nat :=
  (List.range resources.length).filter fun position =>
    resources[position]?.any (·.name == name)

/-- Whether a name is that of a resource. -/
def isKnown (resources : List Resource) (name : String) : Bool :=
  resources.any (·.name == name)

/-- The pages that define one of some names. -/
def pagesOf (resources : List Resource) (names : List String) : List String :=
  Text.sorted ((resources.filter fun resource => names.contains resource.name).map (·.file))

/-- The different base types that the definitions of a name have. -/
def baseTypes (resources : List Resource) (name : String) : List String :=
  Text.sorted ((resources.filter (·.name == name)).filterMap (·.baseType))

/-- An issue that concerns the pages that define some names. -/
def concerning (resources : List Resource) (names : List String) (issue : Issue) : Issue :=
  { issue with pages := pagesOf resources names }

/-! ## Names that differ in case -/

/-- Names that differ only in case from an earlier one; `seen` holds the first names of their kind
so far. -/
def reportCaseMismatches (resources : List Resource) (seen : List String) :
    List String → Audit Unit
  | [] => pure ()
  | name :: rest =>
    let lowered (text : String) := Text.lower text.toList
    match seen.find? fun other => lowered other == lowered name with
    | some other => do
      Audit.report (concerning resources [name, other]
        (.warning .resourceNameCaseMismatch
          s!"Resource '{name}' differs only in case from '{other}'"))
      reportCaseMismatches resources seen rest
    | none => reportCaseMismatches resources (seen ++ [name]) rest

/-! ## Base types -/

/-- A resource with the base type that the definitions of its name agree on. -/
def agreed (resources : List Resource) (resource : Resource) : Resource :=
  match baseTypes resources resource.name with
  | [base] => { resource with baseType := some base }
  | _ => resource

/-- A name whose definitions have different base types. -/
def reportConflict (resources : List Resource) (name : String) : Audit Unit :=
  if (baseTypes resources name).length > 1 then
    let described := (resources.filter (·.name == name)).map fun resource =>
      let base := resource.baseType.getD "none"
      s!"{resource.file} ({base})"
    let list := ", ".intercalate described
    Audit.report (concerning resources [name]
      (.error .baseTypeConflict
        s!"Resource '{name}' declares conflicting base types: {list}"))
  else pure ()

end DocAudit.Definitions
