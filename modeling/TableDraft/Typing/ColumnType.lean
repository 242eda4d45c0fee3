import TableDraft.Dialect
import TableDraft.Typing.AbstractType

/-!
# Types of columns

How an abstract type is written in a dialect. A type token is a name and perhaps arguments in
parentheses, `DECIMAL(18, 2)`. Each built-in name has its own row per dialect; any other token stays
as it is, in upper case. Parameters beside the token go before its arguments.
-/

namespace TableDraft

open Text

/-- A type token read: its name, its arguments, and the whole token in upper case. -/
structure TypeToken where
  name : List Char
  arguments : List UInt32
  raw : List Char
deriving DecidableEq, Repr

namespace TypeToken

/-- A letter or an underscore, of ASCII. -/
def isNameStart (c : Char) : Bool := c.isAlpha || c == '_'

/-- A character of a type name, which may hold spaces. -/
def isNameChar (c : Char) : Bool := c.isAlphanum || c == '_' || c == ' '

/-- The name of a type: it starts with a letter or an underscore. -/
def isName : List Char → Bool
  | [] => false
  | c :: r => isNameStart c && r.all isNameChar

/-- The arguments that can be read as numbers, between commas. -/
def readArguments (s : List Char) : List UInt32 :=
  (s.splitOn ',').filterMap (fun arg => readUInt32? (trim arg))

/-- The name and the text between parentheses, when the token is a name, blanks, and parentheses
without a closing one in between. -/
def withArguments? (raw : List Char) : Option (List Char × List Char) :=
  let head := raw.takeWhile (· != '(')
  match raw.drop head.length with
  | [] => none
  | _ :: r =>
    if isName (trimEnd head) && r.getLast? == some ')' && !r.dropLast.contains ')' then
      some (trimEnd head, r.dropLast)
    else none

/-- Reads a token that is trimmed and in upper case. -/
def read (raw : List Char) : TypeToken :=
  match withArguments? raw with
  | some (name, args) => ⟨name, readArguments args, raw⟩
  | none => ⟨raw, [], raw⟩

end TypeToken

/-- The types that dialects have a word of their own for. -/
inductive BuiltIn where
  | string
  | date
  | timestamp
  | decimal
  | varchar
  | char
  | float
  | double
deriving DecidableEq, Repr

namespace BuiltIn

/-- Every built-in type. -/
def all : List BuiltIn := [string, date, timestamp, decimal, varchar, char, float, double]

/-- The name of a built-in type. -/
def name : BuiltIn → String
  | string => "STRING"
  | date => "DATE"
  | timestamp => "TIMESTAMP"
  | decimal => "DECIMAL"
  | varchar => "VARCHAR"
  | char => "CHAR"
  | float => "FLOAT"
  | double => "DOUBLE"

/-- The built-in type with a name. -/
def ofName? (name : List Char) : Option BuiltIn := all.find? (fun k => k.name.toList == name)

/-- The length of a text of variable length for which none is given. -/
def defaultVarcharLength : UInt32 := 255

/-- The length of a text of fixed length for which none is given. -/
def defaultCharLength : UInt32 := 1

/-- The parameters of a decimal type, with defaults for what is not given. -/
def decimalParameters : Option UInt32 → Option UInt32 → List Char
  | some p, some s => AbstractType.twoParameters p s
  | some p, none => AbstractType.oneParameter p
  | none, some s => AbstractType.twoParameters AbstractType.defaultPrecision s
  | none, none => AbstractType.twoParameters AbstractType.defaultPrecision AbstractType.defaultScale

/-- How a built-in type is written in a dialect, with the parameters that are given and the
arguments of the token. -/
def render (t : AbstractType) (arguments : List UInt32) (d : Dialect) : BuiltIn → List Char
  | string => match d with
    | .postgreSql => "TEXT".toList
    | .clickHouse => "String".toList
    | _ => "STRING".toList
  | date => if d = .clickHouse then "Date".toList else "DATE".toList
  | timestamp => if d = .clickHouse then "DateTime".toList else "TIMESTAMP".toList
  | decimal =>
    (if d = .clickHouse then "Decimal".toList else "DECIMAL".toList) ++
      decimalParameters (t.precision.or arguments[0]?) (t.scale.or arguments[1]?)
  | varchar =>
    if d = .clickHouse then "String".toList
    else "VARCHAR".toList ++
      AbstractType.oneParameter ((t.length.or arguments[0]?).getD defaultVarcharLength)
  | char =>
    (if d = .clickHouse then "FixedString".toList else "CHAR".toList) ++
      AbstractType.oneParameter ((t.length.or arguments[0]?).getD defaultCharLength)
  | float => match d, t.precision.or arguments[0]? with
    | .clickHouse, _ => "Float32".toList
    | .mySql, some p | .postgreSql, some p => "FLOAT".toList ++ AbstractType.oneParameter p
    | .postgreSql, none => "REAL".toList
    | _, _ => "FLOAT".toList
  | double => match d with
    | .postgreSql => "DOUBLE PRECISION".toList
    | .clickHouse => "Float64".toList
    | _ => "DOUBLE".toList

end BuiltIn

namespace AbstractType

/-- A type that no dialect has a word of its own for: its token, and its parameters unless the token
has an opening parenthesis. -/
def passThrough (t : AbstractType) (raw : List Char) : List Char :=
  if raw.contains '(' then raw else upper (trim raw) ++ t.parameters

/-- How the type is written in a dialect. -/
def columnType (t : AbstractType) (d : Dialect) : String :=
  let token := TypeToken.read t.token
  String.ofList <| match BuiltIn.ofName? token.name with
    | some k => k.render t token.arguments d
    | none => t.passThrough token.raw

end AbstractType

end TableDraft
