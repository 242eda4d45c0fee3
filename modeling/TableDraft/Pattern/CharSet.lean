import TableDraft.Text.LetterCase
import TableDraft.Unicode.Lookup

/-!
# Sets of characters in patterns

A set is kept as it was written, out of ranges, named classes and the operations on them; membership
is decided for one character at a time. `folded` closes a set under the difference of letter case.
-/

namespace TableDraft.Pattern

open Unicode

/-- A set of characters. -/
inductive CharSet where
  /-- No character. -/
  | none
  /-- The characters from one to another, both included. -/
  | range (first last : Char)
  /-- The ASCII characters with a property. -/
  | ascii (p : Char → Bool)
  /-- The characters of a class. -/
  | those (k : CharClass)
  | union (a b : CharSet)
  | inter (a b : CharSet)
  | diff (a b : CharSet)
  | symDiff (a b : CharSet)
  | complement (a : CharSet)
  /-- The characters that have a case variant in the set. -/
  | folded (a : CharSet)

namespace CharSet

/-- The set holds the character. -/
def mem : CharSet → Char → Bool
  | none, _ => false
  | range first last, c => first ≤ c && c ≤ last
  | ascii p, c => isAscii c && p c
  | those k, c => k.test c
  | union a b, c => a.mem c || b.mem c
  | inter a b, c => a.mem c && b.mem c
  | diff a b, c => a.mem c && !b.mem c
  | symDiff a b, c => a.mem c != b.mem c
  | complement a, c => !a.mem c
  | folded a, c => (Text.caseVariants c).any a.mem

/-- The set of one character. -/
def single (c : Char) : CharSet := range c c

/-- Every character. -/
def all : CharSet := complement none

/-! ## Size -/

/-- The set has a letter of ASCII. -/
def hasAsciiLetter (s : CharSet) : Bool :=
  (List.range 26).any (fun n => s.mem (Char.ofNat (97 + n)) || s.mem (Char.ofNat (65 + n)))

/-- The memory for telling one character beyond ASCII by its bytes. -/
def charSpread (c : Char) : Nat := 32 * c.utf8Size + 4

/-- About how many ranges of ASCII the set has, and the memory for telling its other characters by
their bytes. -/
def spread : CharSet → Nat × Nat
  | none => (0, 0)
  | range first last =>
    (if isAscii first then 1 else 0,
      if isAscii last then 0 else if first == last then charSpread first else 368)
  | ascii _ => (3, 0)
  | those k => (4, 62 * k.ranges)
  | union a b => (a.spread.1 + b.spread.1, a.spread.2 + b.spread.2)
  | inter a b | diff a b | symDiff a b => (max a.spread.1 b.spread.1, max a.spread.2 b.spread.2)
  | complement a => (a.spread.1 + 1, a.spread.2 + 900)
  | folded (range first last) =>
    if first == last then
      let variants := Text.caseVariants first
      ((variants.filter isAscii).length, (variants.filter (!isAscii ·)).foldl (fun n c => n + charSpread c) 0)
    else
      let s := range first last
      (if s.hasAsciiLetter then 2 else 1,
        (if isAscii last then 0 else 500) + (if s.mem 'k' || s.mem 'K' then 100 else 0) +
          (if s.mem 's' || s.mem 'S' then 68 else 0))
  | folded a =>
    (if a.hasAsciiLetter then 2 * a.spread.1 else a.spread.1,
      a.spread.2 + (if a.mem 'k' || a.mem 'K' then 100 else 0) +
        (if a.mem 's' || a.mem 'S' then 68 else 0))

/-- The memory for a set of several characters. -/
def spreadWeight (x : Nat × Nat) : Nat :=
  if x.2 = 0 then 64 + 8 * x.1 else 64 + 36 * x.1 + x.2

/-- The set's only character, when it is written as one and no case variant joins it. -/
def only? : CharSet → Option Char
  | range first last => if first == last then some first else Option.none
  | folded (range first last) =>
    if first == last && (Text.caseVariants first).length == 1 then some first else Option.none
  | _ => Option.none

/-- A rough measure of the memory for telling the set's characters. -/
def weight (s : CharSet) : Nat :=
  match s.only? with
  | some c => 32 * c.utf8Size
  | Option.none => spreadWeight s.spread

/-! ## Named classes -/

/-- The ASCII classes that stand in double brackets. -/
def asciiClass? (name : List Char) : Option (Char → Bool) :=
  match String.ofList name with
  | "alnum" => some Char.isAlphanum
  | "alpha" => some Char.isAlpha
  | "ascii" => some (fun _ => true)
  | "blank" => some (fun c => c == ' ' || c == '\t')
  | "cntrl" => some (fun c => c.toNat < 32 || c.toNat == 127)
  | "digit" => some Char.isDigit
  | "graph" => some (fun c => 33 ≤ c.toNat && c.toNat ≤ 126)
  | "lower" => some Char.isLower
  | "print" => some (fun c => 32 ≤ c.toNat && c.toNat ≤ 126)
  | "punct" => some (fun c => 33 ≤ c.toNat && c.toNat ≤ 126 && !c.isAlphanum)
  | "space" => some (fun c => c == ' ' || (9 ≤ c.toNat && c.toNat ≤ 13))
  | "upper" => some Char.isUpper
  | "word" => some (fun c => c.isAlphanum || c == '_')
  | "xdigit" => some (fun c =>
      c.isDigit || ('a' ≤ c && c ≤ 'f') || ('A' ≤ c && c ≤ 'F'))
  | _ => Option.none

/-- The class of a letter: digits (`d`), blanks (`s`) or word characters (`w`), of all scripts or of
ASCII. -/
def letterClass? (allScripts : Bool) (c : Char) : Option CharSet :=
  if allScripts then
    match c with
    | 'd' => some (those ⟨isDecimalDigit, 64⟩)
    | 's' => some (those ⟨Text.isBlank, 10⟩)
    | 'w' => some (those ⟨isWord, 766⟩)
    | _ => Option.none
  else
    match c with
    | 'd' => (asciiClass? "digit".toList).map ascii
    | 's' => (asciiClass? "space".toList).map ascii
    | 'w' => (asciiClass? "word".toList).map ascii
    | _ => Option.none

end CharSet

end TableDraft.Pattern
