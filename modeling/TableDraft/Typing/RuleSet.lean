import TableDraft.Typing.Rule

/-!
# Rules by dialect

A rule set holds rules under identifiers of dialects, ordered by identifier. Looking one up ignores
ASCII letter case and blanks at the ends, and the first identifier in order that agrees decides;
`insert` stores under the trimmed identifier in lower case.
-/

namespace TableDraft

open Text

/-- Rules under identifiers, in ascending order of the identifiers. -/
structure RuleSet where
  entries : List (String × List TypeRule)
deriving DecidableEq

namespace RuleSet

/-- No rules. -/
def empty : RuleSet := ⟨[]⟩

/-- Puts rules under a key of an ordered list, in place of those that were there. -/
def putEntry (key : String) (rules : List TypeRule) :
    List (String × List TypeRule) → List (String × List TypeRule)
  | [] => [(key, rules)]
  | (k, old) :: rest =>
    if key < k then (key, rules) :: (k, old) :: rest
    else if key = k then (key, rules) :: rest
    else (k, old) :: putEntry key rules rest

/-- Puts rules under an identifier exactly as written. -/
def put (s : RuleSet) (id : String) (rules : List TypeRule) : RuleSet :=
  ⟨putEntry id rules s.entries⟩

/-- The set of some entries as written, of which the last one under an identifier counts. -/
def ofEntries (entries : List (String × List TypeRule)) : RuleSet :=
  entries.foldl (fun s e => s.put e.1 e.2) empty

/-- The identifier as it is stored: trimmed, in lower case. -/
def normalId (id : String) : String := String.ofList (lower (trim id.toList))

/-- Sets the rules of a dialect. -/
def insert (s : RuleSet) (id : String) (rules : List TypeRule) : RuleSet :=
  s.put (normalId id) rules

/-- Sets the rules of every dialect of another set, in its order. -/
def insertAll (s : RuleSet) (other : RuleSet) : RuleSet :=
  other.entries.foldl (fun s e => s.insert e.1 e.2) s

/-- Two identifiers agree but for ASCII letter case and blanks at the ends. -/
def sameId (a b : String) : Bool := sameIgnoringAsciiCase (trim a.toList) (trim b.toList)

/-- The rules of a dialect; none when it has no entry. -/
def get (s : RuleSet) (id : String) : List TypeRule :=
  match s.entries.find? (fun e => sameId e.1 id) with
  | some e => e.2
  | none => []

/-- No dialect has a rule. -/
def isEmpty (s : RuleSet) : Bool := s.entries.all (fun e => e.2.isEmpty)

end RuleSet

end TableDraft
