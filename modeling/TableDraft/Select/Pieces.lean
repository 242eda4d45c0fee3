import TableDraft.Text.Blank

/-!
# The pieces of a list

A select list is cut at the commas outside of parentheses. `pieces` gives the trimmed texts between
those commas, and the text after the last one unless it is blank. The list is sound when its
parentheses balance (`Balanced`), which `balanced` decides.

A depth in parentheses is an integer here. A counter of 32 bits keeps it for every text with fewer than
two to the power of 31 of them.
-/

namespace TableDraft.Select

open Text

/-! ## Parentheses -/

/-- How much deeper in parentheses a text is after the character. -/
def depthStep (c : Char) : Int :=
  if c == '(' then 1 else if c == ')' then -1 else 0

/-- The depth in parentheses at the end of a text that starts at the given depth. -/
def depthAfter (d : Int) (s : List Char) : Int :=
  s.foldl (fun d c => d + depthStep c) d

/-- From the given depth, the text never gets below zero and ends at zero. -/
def balancedFrom (d : Int) : List Char → Bool
  | [] => d == 0
  | c :: r => 0 ≤ d + depthStep c && balancedFrom (d + depthStep c) r

/-- Every closing parenthesis closes an open one and none stays open. -/
def balanced (s : List Char) : Bool := balancedFrom 0 s

/-- No prefix closes more than it opens, and the totals are equal. -/
def Balanced (s : List Char) : Prop :=
  (∀ p, p <+: s → 0 ≤ depthAfter 0 p) ∧ depthAfter 0 s = 0

/-! ## Cutting -/

/-- The texts between the commas at depth zero, the rest after the last one included, when the text
starts at the given depth. There is at least one. -/
def cut (d : Int) : List Char → List (List Char)
  | [] => [[]]
  | c :: r =>
    if c == ',' && d == 0 then [] :: cut d r
    else match cut (d + depthStep c) r with
      | [] => [[c]]
      | p :: ps => (c :: p) :: ps

/-- The list without its last member when that is empty. -/
def dropEmptyLast : List (List Char) → List (List Char)
  | [] => []
  | [p] => if p.isEmpty then [] else [p]
  | p :: q :: r => p :: dropEmptyLast (q :: r)

/-- The trimmed texts between the commas outside of parentheses; what follows the last comma counts
unless it is blank. -/
def pieces (s : List Char) : List (List Char) :=
  dropEmptyLast ((cut 0 s).map trim)

end TableDraft.Select
