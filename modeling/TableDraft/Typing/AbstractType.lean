import TableDraft.Text.LetterCase
import TableDraft.Text.Number

/-!
# Abstract types

A column's type before any dialect has a say: a type token such as `STRING` or `VARCHAR(64)`, and
parameters beside it that may be unset.
-/

namespace TableDraft

open Text

/-- A type token with the parameters given beside it. -/
structure AbstractType where
  /-- The token, in any letter case; it may hold parameters of its own. -/
  dataType : String
  /-- How many digits a number has. -/
  precision : Option UInt32
  /-- How many of the digits stand after the point. -/
  scale : Option UInt32
  /-- How many characters a text has. -/
  length : Option UInt32
deriving DecidableEq, Repr

namespace AbstractType

/-- A type without parameters. -/
def ofToken (token : String) : AbstractType := ⟨token, none, none, none⟩

/-- Text. -/
def string : AbstractType := ofToken "STRING"

/-- A day. -/
def date : AbstractType := ofToken "DATE"

/-- A point in time. -/
def timestamp : AbstractType := ofToken "TIMESTAMP"

/-- A decimal number. -/
def decimal (precision scale : UInt32) : AbstractType :=
  { ofToken "DECIMAL" with precision := some precision, scale := some scale }

/-- The digits of a decimal number for which nothing is given. -/
def defaultPrecision : UInt32 := 24

/-- The digits after the point of a decimal number for which nothing is given. -/
def defaultScale : UInt32 := 6

/-- An amount or a quantity. -/
def defaultDecimal : AbstractType := decimal defaultPrecision defaultScale

/-- One parameter in parentheses. -/
def oneParameter (n : UInt32) : List Char := '(' :: writeUInt32 n ++ [')']

/-- Two parameters in parentheses. -/
def twoParameters (m n : UInt32) : List Char :=
  '(' :: writeUInt32 m ++ ',' :: writeUInt32 n ++ [')']

/-- The parameters that are shown: precision and scale, else the precision, else the length. -/
def parameters (t : AbstractType) : List Char :=
  match t.precision, t.scale, t.length with
  | some p, some s, _ => twoParameters p s
  | some p, none, _ => oneParameter p
  | none, _, some n => oneParameter n
  | none, _, none => []

/-- The token as it is read: trimmed, in upper case. -/
def token (t : AbstractType) : List Char := upper (trim t.dataType.toList)

/-- The token in upper case with the parameters. -/
def display (t : AbstractType) : String := String.ofList (t.token ++ t.parameters)

end AbstractType

end TableDraft
