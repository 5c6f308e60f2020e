/-!
# Edit distance

The Levenshtein distance of two texts: the least number of single characters to insert, delete or
replace that turns one into the other.  It is computed row by row.  The row of a start `u` of the
first text lists the distances from `u` to every start of the second text, the empty one first.
-/

namespace DocAudit.Text

/-- The entries of the next row behind its first, for one more character `c` of the first text.
`diagonal` and `left` are the entries above-left and left of the next one. -/
def rowEntries (c : Char) : Nat → Nat → List Char → List Nat → List Nat
  | diagonal, left, x :: text, above :: row =>
    let entry := min (min (diagonal + if c = x then 0 else 1) (above + 1)) (left + 1)
    entry :: rowEntries c above entry text row
  | _, _, _, _ => []

/-- The row of `u ++ [c]` from the row of `u`, against the text `b`. -/
def nextRow (b : List Char) (row : List Nat) (c : Char) : List Nat :=
  match row with
  | [] => []
  | first :: rest => (first + 1) :: rowEntries c first (first + 1) b rest

/-- The Levenshtein distance of two texts. -/
def editDistance (a b : List Char) : Nat :=
  (a.foldl (nextRow b) (List.range (b.length + 1))).getLastD 0

end DocAudit.Text
