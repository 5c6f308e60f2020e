import DocAudit.ResourceGraph.Definitions

/-!
# Base types first

Names are put in an order in which every base type comes before the names that derive from it.  A
name is visited by visiting its base types and putting it behind them.  A base type that is still
being visited closes a cycle, which is kept as a closed walk from name to base type.
-/

namespace DocAudit

/-- How far names have been visited: the names that are finished, in order, and the cycles met. -/
structure Visits where
  finished : List String
  cycles : List (List String)
  deriving DecidableEq, Repr

namespace Visits

/-- Nothing visited. -/
def start : Visits := ⟨[], []⟩

/-- The walk from a name along the chain of names that are being visited, the latest first, back to
the name. -/
def cycle (chain : List String) (name : String) : List String :=
  name :: (chain.takeWhile (· != name)).reverse ++ [name]

/-- Visits a name with all that it derives from, by chains of at most `depth` names.  `bases` gives
the base types of a name, and `chain` holds the names that are being visited, the latest first. -/
def visit (bases : String → List String) :
    Nat → List String → Visits → String → Visits
  | 0, _, visits, _ => visits
  | depth + 1, chain, visits, name =>
    if visits.finished.contains name then visits
    else if chain.contains name then
      { visits with cycles := visits.cycles ++ [cycle chain name] }
    else
      let below := (bases name).foldl (visit bases depth (name :: chain)) visits
      { below with finished := below.finished ++ [name] }

/-- Visits all of some names.  A chain has different names of them, so none is longer than the
list. -/
def ofNames (bases : String → List String) (names : List String) : Visits :=
  names.foldl (visit bases (names.length + 1) []) start

end Visits

end DocAudit
