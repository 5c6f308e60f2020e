import DocAudit.Text.EditDistance
import DocAudit.Text.Lowercase

/-!
# Suggestions for a misspelt name

A name that was not found is compared with the known names.  The nearest one is suggested if it
differs in at most a third of the characters looked up.
-/

namespace DocAudit.Text

/-- The largest distance at which a name is still suggested: a third of the length of the text
looked up, and at least one. -/
def suggestionLimit (lookup : List Char) : Nat :=
  max lookup.length 3 / 3

/-- The earlier of the nearest candidates, where each is paired with its distance. -/
def nearest (best : Option (Nat × String)) (candidate : Nat × String) : Option (Nat × String) :=
  match best with
  | some found => if candidate.1 < found.1 then some candidate else some found
  | none => some candidate

/-- The candidate nearest to `lookup` regardless of case, if one is near enough.  Empty candidates
do not count, and of equally near ones the first is taken. -/
def suggest (lookup : String) (candidates : List String) : Option String :=
  let needle := lower lookup.toList
  let limit := suggestionLimit lookup.toList
  let near := candidates.filterMap fun candidate =>
    let distance := editDistance needle (lower candidate.toList)
    if !candidate.isEmpty && distance ≤ limit then some (distance, candidate) else none
  (near.foldl nearest none).map (·.2)

end DocAudit.Text
