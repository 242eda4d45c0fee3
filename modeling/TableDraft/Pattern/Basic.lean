import TableDraft.Pattern.CharSet

/-!
# Patterns and where they match

A pattern is read as a relation between places in a text: from which place to which it can run.
`Pattern.reach` computes it for a set of places at once, given as one mark for each place before,
between and after the characters. Since a set of places only ever grows or moves on, repetition ends
after as many rounds as there are places, and no pattern takes more than that.
-/

namespace TableDraft.Pattern

/-- A condition on the characters next to a place. `allScripts` tells which word characters count. -/
inductive Anchor where
  | textStart
  | textEnd
  | lineStart
  | lineEnd
  /-- A line starts, where a return before a line feed does not end the line yet. -/
  | lineStartCrlf
  /-- A line ends, where a return before a line feed ends it. -/
  | lineEndCrlf
  | wordEdge (allScripts : Bool)
  | noWordEdge (allScripts : Bool)
  | wordStart (allScripts : Bool)
  | wordEnd (allScripts : Bool)
  | noWordBefore (allScripts : Bool)
  | noWordAfter (allScripts : Bool)

namespace Anchor

/-- The character is there and is a word character. -/
def isWordAt (allScripts : Bool) : Option Char → Bool
  | none => false
  | some c => if allScripts then Unicode.isWord c else Unicode.isAscii c && Unicode.isWord c

/-- The condition holds between two characters, of which one is missing at an end of the text. -/
def holds : Anchor → Option Char → Option Char → Bool
  | textStart, before, _ => before.isNone
  | textEnd, _, after => after.isNone
  | lineStart, before, _ => before.isNone || before == some '\n'
  | lineEnd, _, after => after.isNone || after == some '\n'
  | lineStartCrlf, before, after =>
    before.isNone || before == some '\n' || (before == some '\r' && after != some '\n')
  | lineEndCrlf, before, after =>
    after.isNone || after == some '\r' || (after == some '\n' && before != some '\r')
  | wordEdge u, before, after => isWordAt u before != isWordAt u after
  | noWordEdge u, before, after => isWordAt u before == isWordAt u after
  | wordStart u, before, after => !isWordAt u before && isWordAt u after
  | wordEnd u, before, after => isWordAt u before && !isWordAt u after
  | noWordBefore u, before, _ => !isWordAt u before
  | noWordAfter u, _, after => !isWordAt u after

end Anchor

end Pattern

/-- A pattern of text. -/
inductive Pattern where
  /-- The empty text. -/
  | empty
  /-- One character of a set. -/
  | one (s : Pattern.CharSet)
  /-- The empty text at a place that meets a condition. -/
  | anchor (a : Pattern.Anchor)
  /-- One pattern and then another. -/
  | seq (p q : Pattern)
  /-- One of two patterns. -/
  | alt (p q : Pattern)
  /-- A pattern at least and at most so many times; without a limit if none is given. -/
  | repeated (p : Pattern) (least : Nat) (most : Option Nat)

namespace Pattern

/-! ## Marks on places -/

/-- The characters before and after each place of a text that follows the given character. -/
def neighbours (before : Option Char) : List Char → List (Option Char × Option Char)
  | [] => [(before, none)]
  | c :: r => (before, some c) :: neighbours (some c) r

/-- Applies a step so many times, or until it changes nothing. -/
def times (step : List Bool → List Bool) : Nat → List Bool → List Bool
  | 0, marks => marks
  | n + 1, marks =>
    let next := step marks
    if next == marks then marks else times step n next

/-- Adds the places that up to so many steps lead to. -/
def grow (step : List Bool → List Bool) : Nat → List Bool → List Bool
  | 0, marks => marks
  | n + 1, marks =>
    let more := List.zipWith (· || ·) marks (step marks)
    if more == marks then marks else grow step n more

/-- The places that the pattern can run to from the marked ones. -/
def reach (text : List Char) : Pattern → List Bool → List Bool
  | empty, marks => marks
  | one s, marks => false :: List.zipWith (fun m c => m && s.mem c) marks text
  | anchor a, marks => List.zipWith (fun m n => m && a.holds n.1 n.2) marks (neighbours none text)
  | seq p q, marks => reach text q (reach text p marks)
  | alt p q, marks => List.zipWith (· || ·) (reach text p marks) (reach text q marks)
  | repeated p least most, marks =>
    let start := times (reach text p) least marks
    match most with
    | none => grow (reach text p) marks.length start
    | some n => grow (reach text p) (n - least) start

/-- The pattern matches some part of the text. -/
def occursIn (p : Pattern) (text : List Char) : Bool :=
  (p.reach text (List.replicate (text.length + 1) true)).any id

/-! ## Size -/

/-- A rough measure of the pattern with its repetitions written out. -/
def weight : Pattern → Nat
  | empty => 32
  | one s => s.weight
  | anchor _ => 32
  | seq p q => p.weight + q.weight
  | alt p q => p.weight + q.weight + 40
  | repeated p least none => max 1 least * p.weight + 40
  | repeated p least (some most) => least * p.weight + (most - least) * (p.weight + 40) + 32

/-- The size beyond which a pattern is refused. -/
def maxWeight : Nat := 10 * 1024 * 1024

end Pattern

end TableDraft
