/-!
# JSON values

The values that documents hold, with members in the order in which they are written, and their two
written forms: `compact` without any space, and `pretty` with two spaces of indentation per level.
Numbers are integers.
-/

namespace TableDraft

/-- A JSON value. -/
inductive Json where
  | null
  | bool (b : Bool)
  | int (n : Int)
  | string (s : String)
  | array (items : List Json)
  | object (members : List (String × Json))

namespace Json

/-! ## Strings -/

/-- A digit of a hexadecimal number, in lower case. -/
def hexDigit (n : Nat) : Char :=
  if n < 10 then Char.ofNat (48 + n) else Char.ofNat (87 + n)

/-- A character as it is written in a string. -/
def writeChar (c : Char) : List Char :=
  if c == '"' then ['\\', '"']
  else if c == '\\' then ['\\', '\\']
  else if c.toNat == 8 then ['\\', 'b']
  else if c == '\t' then ['\\', 't']
  else if c == '\n' then ['\\', 'n']
  else if c.toNat == 12 then ['\\', 'f']
  else if c == '\r' then ['\\', 'r']
  else if c.toNat < 32 then ['\\', 'u', '0', '0', hexDigit (c.toNat / 16), hexDigit (c.toNat % 16)]
  else [c]

/-- A string between quotes. -/
def writeString (s : String) : List Char := '"' :: s.toList.flatMap writeChar ++ ['"']

/-- An integer in decimal. -/
def writeInt (n : Int) : List Char :=
  if n < 0 then '-' :: Nat.toDigits 10 n.natAbs else Nat.toDigits 10 n.natAbs

/-! ## Without spaces -/

mutual

/-- A value without any space. -/
def compact : Json → List Char
  | null => "null".toList
  | bool b => if b then "true".toList else "false".toList
  | int n => writeInt n
  | string s => writeString s
  | array items => '[' :: compactItems items ++ [']']
  | object members => '{' :: compactMembers members ++ ['\x7d']

/-- Items with commas between. -/
def compactItems : List Json → List Char
  | [] => []
  | [j] => j.compact
  | j :: k :: r => j.compact ++ ',' :: compactItems (k :: r)

/-- Members with commas between. -/
def compactMembers : List (String × Json) → List Char
  | [] => []
  | [(k, j)] => writeString k ++ ':' :: j.compact
  | (k, j) :: m :: r => writeString k ++ ':' :: j.compact ++ ',' :: compactMembers (m :: r)

end

/-! ## Over several lines -/

/-- A new line at a level. -/
def newLine (level : Nat) : List Char := '\n' :: List.replicate (2 * level) ' '

mutual

/-- A value over several lines, at a level of indentation. -/
def prettyAt (level : Nat) : Json → List Char
  | null => "null".toList
  | bool b => if b then "true".toList else "false".toList
  | int n => writeInt n
  | string s => writeString s
  | array [] => ['[', ']']
  | array (j :: r) => '[' :: prettyItems (level + 1) (j :: r) ++ newLine level ++ [']']
  | object [] => ['{', '\x7d']
  | object (m :: r) => '{' :: prettyMembers (level + 1) (m :: r) ++ newLine level ++ ['\x7d']

/-- Items on lines of their own. -/
def prettyItems (level : Nat) : List Json → List Char
  | [] => []
  | [j] => newLine level ++ prettyAt level j
  | j :: k :: r => newLine level ++ prettyAt level j ++ ',' :: prettyItems level (k :: r)

/-- Members on lines of their own. -/
def prettyMembers (level : Nat) : List (String × Json) → List Char
  | [] => []
  | [(k, j)] => newLine level ++ writeString k ++ ':' :: ' ' :: prettyAt level j
  | (k, j) :: m :: r =>
    newLine level ++ writeString k ++ ':' :: ' ' :: prettyAt level j ++ ',' :: prettyMembers level (m :: r)

end

/-- A value over several lines. -/
def pretty (j : Json) : String := String.ofList (prettyAt 0 j)

/-- A value on one line. -/
def render (j : Json) : String := String.ofList j.compact

end Json

end TableDraft
