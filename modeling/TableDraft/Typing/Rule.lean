import TableDraft.Text.Search
import TableDraft.Typing.AbstractType

/-!
# Rules for types

A rule assigns a type to the fields whose name or comment matches one of its keywords. A keyword is
the whole text, a part of it, or a pattern that occurs in it; blank keywords and keywords that are no
patterns match nothing. What a pattern is and where it occurs is up to a `PatternEngine`.
-/

namespace TableDraft

open Text

/-- How a keyword is compared. -/
inductive MatchMode where
  /-- The text is the keyword, in lower case. -/
  | equals
  /-- The text holds the keyword, in lower case. -/
  | contains
  /-- The keyword is a pattern that occurs in the text in any letter case. -/
  | regex
deriving DecidableEq, Repr

/-- What a rule looks at. -/
inductive RuleTarget where
  | name
  | comment
deriving DecidableEq, Repr

/-- A rule: keywords, how and where to look for them, and the type that a match gives. -/
structure TypeRule where
  keywords : List String
  matchMode : MatchMode
  target : RuleTarget
  dataType : String
  /-- Rules of lower priority are tried first. -/
  priority : Int64
  precision : Option UInt32
  scale : Option UInt32
  length : Option UInt32
deriving DecidableEq

/-- An engine for patterns: of a keyword, in which texts it occurs in any letter case; none for a keyword
that it does not read as a pattern. -/
class PatternEngine where
  search? : String → Option (String → Bool)

variable [PatternEngine]

/-- The keyword matches the text, which is in lower case. -/
def MatchMode.admits (mode : MatchMode) (text keyword : String) : Bool :=
  !isBlankText keyword.toList &&
  match mode with
  | .equals => text == lowered keyword
  | .contains => Text.contains (lower keyword.toList) text.toList
  | .regex =>
    match PatternEngine.search? keyword with
    | some occursIn => occursIn text
    | none => false

namespace TypeRule

/-- A rule that looks for parts of the name and gives a type without parameters. -/
def ofKeywords (keywords : List String) (dataType : String) : TypeRule :=
  ⟨keywords, .contains, .name, dataType, 0, none, none, none⟩

/-- The rule with another way to compare. -/
def withMatchMode (r : TypeRule) (mode : MatchMode) : TypeRule := { r with matchMode := mode }

/-- The rule with another target. -/
def withTarget (r : TypeRule) (target : RuleTarget) : TypeRule := { r with target }

/-- The rule with another priority. -/
def withPriority (r : TypeRule) (priority : Int64) : TypeRule := { r with priority }

/-- The rule with a precision and a scale. -/
def withPrecisionScale (r : TypeRule) (precision scale : UInt32) : TypeRule :=
  { r with precision := some precision, scale := some scale }

/-- The rule with a length. -/
def withLength (r : TypeRule) (length : UInt32) : TypeRule := { r with length := some length }

/-- One of the keywords matches the name or the comment, given in lower case. -/
def admits (r : TypeRule) (name comment : String) : Bool :=
  let text := match r.target with
    | .name => name
    | .comment => comment
  r.keywords.any (r.matchMode.admits text)

/-- The type that the rule gives. -/
def type (r : TypeRule) : AbstractType := ⟨r.dataType, r.precision, r.scale, r.length⟩

end TypeRule

end TableDraft
