import TableDraft.Text.LetterCase

/-!
# Looking for text in text

Substrings, and keywords: words of a query language, read without regard to case. A keyword is
given in lower-case ASCII letters; `dropKeyword` reads it, `dropWord` also asks that no word
character touches it, and `afterWord` finds its first occurrence.
-/

namespace TableDraft.Text

open Unicode

/-- The text holds the other one somewhere. -/
def contains (needle : List Char) : List Char → Bool
  | [] => needle.isEmpty
  | c :: r => needle.isPrefixOf (c :: r) || contains needle r

/-- The text holds one of several others. -/
def containsAny (needles : List String) (s : List Char) : Bool :=
  needles.any (fun n => contains n.toList s)

/-- The ASCII letter that a character folds to: its own lower case, `s` for the long s and `k` for
the Kelvin sign. Other characters stand for themselves. -/
def letter (c : Char) : Char :=
  if c.toNat == 0x17F then 's' else if c.toNat == 0x212A then 'k' else c.toLower

/-- What follows a keyword at the start of a text. -/
def dropKeyword : List Char → List Char → Option (List Char)
  | [], s => some s
  | _ :: _, [] => none
  | k :: ks, c :: r => if letter c == k then dropKeyword ks r else none

/-- The first character, if any, is a word character. -/
def startsInWord (s : List Char) : Bool :=
  match s with
  | [] => false
  | c :: _ => isWord c

/-- What follows a keyword at the start of a text when it is a whole word; `inWord` says that the
character before the text is a word character. -/
def dropWord (keyword : List Char) (inWord : Bool) (s : List Char) : Option (List Char) :=
  if inWord then none
  else (dropKeyword keyword s).filter (fun r => !startsInWord r)

/-- What follows the first occurrence of a keyword as a whole word. -/
def afterWord (keyword : List Char) (inWord : Bool) : List Char → Option (List Char)
  | [] => none
  | c :: r => match dropWord keyword inWord (c :: r) with
    | some rest => some rest
    | none => afterWord keyword (isWord c) r

/-- The text holds the keyword as a whole word. -/
def holdsWord (keyword : List Char) (s : List Char) : Bool :=
  (afterWord keyword false s).isSome

/-- What follows at least one blank and all blanks after it. -/
def dropBlanks : List Char → Option (List Char)
  | [] => none
  | c :: r => if isBlank c then some (trimStart r) else none

end TableDraft.Text
