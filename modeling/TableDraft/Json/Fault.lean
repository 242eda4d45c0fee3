import TableDraft.Json.Shortest
import TableDraft.Text.Escaped

/-!
# What is wrong with a document

Two kinds of fault: a `Cause` is found in the text itself, and the other faults of `Fault` in what
the text says, when a value of some kind is expected of it.
-/

namespace TableDraft.Json

/-- Why reading a text stops. -/
inductive Cause where
  | endInList
  | endInObject
  | endInString
  | endInValue
  | expectedColon
  | expectedListCommaOrEnd
  | expectedObjectCommaOrEnd
  | expectedIdent
  | expectedValue
  | invalidEscape
  | invalidNumber
  | numberOutOfRange
  | controlCharacter
  | keyMustBeString
  | loneSurrogate
  | trailingComma
  | trailingCharacters
  | endOfHexEscape
  | recursionLimit
deriving DecidableEq, Repr

/-- The wording of a cause. -/
def Cause.message : Cause → String
  | endInList => "EOF while parsing a list"
  | endInObject => "EOF while parsing an object"
  | endInString => "EOF while parsing a string"
  | endInValue => "EOF while parsing a value"
  | expectedColon => "expected `:`"
  | expectedListCommaOrEnd => "expected `,` or `]`"
  | expectedObjectCommaOrEnd => "expected `,` or `\x7d`"
  | expectedIdent => "expected ident"
  | expectedValue => "expected value"
  | invalidEscape => "invalid escape"
  | invalidNumber => "invalid number"
  | numberOutOfRange => "number out of range"
  | controlCharacter => "control character (\\u0000-\\u001F) found while parsing a string"
  | keyMustBeString => "key must be a string"
  | loneSurrogate => "lone leading surrogate in hex escape"
  | trailingComma => "trailing comma"
  | trailingCharacters => "trailing characters"
  | endOfHexEscape => "unexpected end of hex escape"
  | recursionLimit => "recursion limit exceeded"

/-- What stands where something else is expected. -/
inductive Found where
  | null
  | bool (b : Bool)
  | int (n : Int)
  | real (r : Real)
  | string (s : String)
  | sequence
  | map
deriving DecidableEq, Repr

/-- The wording for what was found. -/
def Found.message : Found → String
  | null => "null"
  | bool b => "boolean `" ++ (if b then "true" else "false") ++ "`"
  | int n => "integer `" ++ toString n ++ "`"
  | real r => "floating point `" ++ String.ofList r.text ++ "`"
  | string s => "string " ++ Text.showText s
  | sequence => "sequence"
  | map => "map"

/-- Why a document gives no value. -/
inductive Fault where
  /-- The text is no document. -/
  | malformed (c : Cause)
  /-- A value of another kind is expected. -/
  | mismatch (found : Found) (expected : String)
  /-- The integer does not fit. -/
  | outOfRange (n : Int) (expected : String)
  /-- A member that has to be there is not. -/
  | missing (member : String)
  /-- A member is there twice. -/
  | duplicate (member : String)
  /-- A word is none of the known ones. -/
  | unknownVariant (name : String) (known : List String)
  /-- A list is too short for what it stands for. -/
  | tooShort (length : Nat) (expected : String)
  /-- The value fits none of the shapes of a type. -/
  | noVariant (type : String)
deriving DecidableEq, Repr

namespace Fault

/-- The known words as a choice. -/
def choice : List String → String
  | [] => "there are no variants"
  | [a] => "expected `" ++ a ++ "`"
  | [a, b] => "expected `" ++ a ++ "` or `" ++ b ++ "`"
  | names => "expected one of " ++ String.intercalate ", " (names.map (fun n => "`" ++ n ++ "`"))

/-- The wording of a fault. -/
def message : Fault → String
  | malformed c => c.message
  | mismatch found expected => "invalid type: " ++ found.message ++ ", expected " ++ expected
  | outOfRange n expected => "invalid value: integer `" ++ toString n ++ "`, expected " ++ expected
  | missing member => "missing field `" ++ member ++ "`"
  | duplicate member => "duplicate field `" ++ member ++ "`"
  | unknownVariant name known => "unknown variant `" ++ name ++ "`, " ++ choice known
  | tooShort n expected => "invalid length " ++ toString n ++ ", expected " ++ expected
  | noVariant type => "data did not match any variant of untagged enum " ++ type

end Fault

end TableDraft.Json
