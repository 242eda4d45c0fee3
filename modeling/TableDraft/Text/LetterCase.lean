import TableDraft.Unicode.CaseMapping
import TableDraft.Unicode.Property

/-!
# Letter case

Lower and upper case of a text, character by character but for the Greek sigma, which has a form of
its own at the end of a word; and `caseVariants`, the characters that differ from one in case alone.
ASCII letters move by 32 and need no table.
-/

namespace TableDraft.Text

open Unicode

/-! ## Lower case -/

/-- The lower case of one character. -/
def lowerChar (c : Char) : List Char :=
  if isAscii c then [c.toLower]
  else if c.toNat == 0x130 then ['i', Char.ofNat 0x307]
  else match lowerRuns.findSome? (·.image? c.toNat) with
    | some n => [Char.ofNat n]
    | none => [c]

/-- The nearest character that case does not step over is cased. -/
def meetsCased (s : List Char) : Bool :=
  match s.dropWhile isCaseIgnorable with
  | [] => false
  | c :: _ => isCased c

/-- The lower case of a capital sigma: the final form after a letter and before none. The characters
before it are given in reverse. -/
def lowerSigma (before after : List Char) : Char :=
  if meetsCased before && !meetsCased after then 'ς' else 'σ'

/-- The lower case of a text that follows the given characters, which come in reverse. -/
def lowerAfter (before : List Char) : List Char → List Char
  | [] => []
  | c :: r =>
    (if c == 'Σ' then [lowerSigma before r] else lowerChar c) ++ lowerAfter (c :: before) r

/-- The lower case of a text. -/
def lower (s : List Char) : List Char := lowerAfter [] s

/-- The lower case of a string. -/
def lowered (s : String) : String := String.ofList (lower s.toList)

/-! ## Upper case -/

/-- The upper case of one character. -/
def upperChar (c : Char) : List Char :=
  if isAscii c then [c.toUpper]
  else match upperSequences.lookup c.toNat with
    | some ns => ns.map Char.ofNat
    | none => match upperRuns.findSome? (·.image? c.toNat) with
      | some n => [Char.ofNat n]
      | none => [c]

/-- The upper case of a text. -/
def upper (s : List Char) : List Char := s.flatMap upperChar

/-! ## Ignoring case -/

/-- Equal but for the case of ASCII letters. -/
def sameIgnoringAsciiCase (s t : List Char) : Bool :=
  s.map Char.toLower == t.map Char.toLower

/-- The one of a character's case variants that stands for all of them. -/
def foldChar (c : Char) : Char :=
  if isAscii c then c.toLower
  else match foldRuns.findSome? (·.image? c.toNat) with
    | some n => Char.ofNat n
    | none => c

/-- The characters that fold to the same character, this one among them. -/
def caseVariants (c : Char) : List Char :=
  let f := foldChar c
  let ascii := if f.isLower then [f.toUpper] else []
  f :: ascii ++ foldRuns.filterMap (fun r => (r.source? f.toNat).map Char.ofNat)

end TableDraft.Text
