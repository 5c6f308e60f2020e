import DocAudit.Issue.Audit
import DocAudit.ValueType.Basic

/-!
# Joining descriptions of parameters

A property is often described twice: an example shows it, and a row of a table tells about it.
`Parameter.merge` joins the two.  What the first says counts, and the second fills in what is
missing; of two types the more specific one is kept, and a finding tells where they disagree.  Lists
of parameters are joined by name.
-/

namespace DocAudit

namespace Parameter

/-- The type of a parameter that is given with one type and documented with another one. -/
def mergeType (name : String) (given documented : ValueType) : Audit ValueType :=
  if given.same documented || documented.same .untyped then pure given
  else if given.isLessSpecific documented then pure documented
  else if documented.isLessSpecific given then do
    Audit.warning .typeSpecificityDowngrade
      (s!"Property '{name}' is documented as {documented.text} but the example shows the more " ++
        s!"specific {given.text}")
    return given
  else do
    Audit.warning .parameterTypeMismatch
      s!"Property '{name}' is documented as {documented.text} but the example shows {given.text}"
    return documented

/-- A parameter with what another description of it adds. -/
def merge (a b : Parameter) : Audit Parameter := do
  let type ← mergeType a.name a.type b.type
  return { a with
    title := a.title <|> b.title
    description := a.description <|> b.description
    type := type
    required := a.required <|> b.required
    optional := a.optional <|> b.optional
    writtenValue := a.writtenValue <|> b.writtenValue
    navigable := a.navigable || b.navigable }

/-- Joins a parameter with the first one of its name, or adds it at the end. -/
def mergeInto (incoming : Parameter) : List Parameter → Audit (List Parameter)
  | [] => pure [incoming]
  | known :: rest =>
    if known.name = incoming.name then do return (← known.merge incoming) :: rest
    else do return known :: (← mergeInto incoming rest)

/-- Joins two lists of parameters by name: known ones are joined, new ones are added in order. -/
def mergeLists (existing incoming : List Parameter) : Audit (List Parameter) :=
  incoming.foldlM (fun merged parameter => mergeInto parameter merged) existing

end Parameter

end DocAudit
