/-!
# Sets of characters

A property of characters that is fixed by a published table is written down as the list of its
ranges of code points.  `CharSet.contains` reads such a list; the tables themselves stand in the
modules named for their property.
-/

namespace DocAudit

/-- A set of characters, as inclusive ranges of code points in increasing order. -/
abbrev CharSet := List (Nat × Nat)

/-- Whether a character lies in one of the ranges. -/
def CharSet.contains (ranges : CharSet) (c : Char) : Bool :=
  ranges.any fun range => range.1 ≤ c.toNat && c.toNat ≤ range.2

end DocAudit
