import TableDraft.Text.LetterCase

/-!
# Text made visible

A text between double quotes in which every character that does not print by itself is escaped:
quotes, backslashes, controls, and by code point (`\u{3000}`) all that has no picture of its own or
only continues the character before it.
-/

namespace TableDraft.Text

open Unicode

/-- A number in hexadecimal, in lower case. -/
def writeHex (n : Nat) : List Char := Nat.toDigits 16 n

/-- A character as it is shown. -/
def showChar (c : Char) : List Char :=
  if c == '"' || c == '\\' then ['\\', c]
  else if c == '\n' then ['\\', 'n']
  else if c == '\r' then ['\\', 'r']
  else if c == '\t' then ['\\', 't']
  else if c.toNat == 0 then ['\\', '0']
  else if isPrintable c && !isGraphemeExtend c then [c]
  else ['\\', 'u', '{'] ++ writeHex c.toNat ++ ['\x7d']

/-- A text as it is shown, between double quotes. -/
def showText (s : String) : String :=
  String.ofList ('"' :: s.toList.flatMap showChar ++ ['"'])

end TableDraft.Text
