/-!
# Tables of character ranges

A set of characters as a list of code point ranges in ascending order, with the test
`RangeTable.contains` that looks a character up.
-/

namespace TableDraft.Unicode

/-- Ascending ranges of code points, both ends included. -/
structure RangeTable where
  ranges : List (Nat × Nat)

namespace RangeTable

/-- The table holds the character: the first range that does not end before it starts at or before
it. -/
def contains (t : RangeTable) (c : Char) : Bool :=
  match t.ranges.find? (fun r => c.toNat ≤ r.2) with
  | some r => r.1 ≤ c.toNat
  | none => false

end RangeTable

end TableDraft.Unicode
