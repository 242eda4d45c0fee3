import TableDraft.Text.Blank

/-!
# Numbers in text

Numbers of 32 bits in decimal: `readUInt32?` reads one, `writeUInt32` writes one.
-/

namespace TableDraft.Text

/-- The value of decimal digits. -/
def digitsValue (s : List Char) : Nat := s.foldl (fun n c => 10 * n + (c.toNat - 48)) 0

/-- A number written in decimal digits, at least one, after an optional plus sign; none beyond 32
bits. -/
def readUInt32? (s : List Char) : Option UInt32 :=
  let digits := match s with
    | '+' :: r => r
    | s => s
  if digits.isEmpty || !digits.all Char.isDigit || digitsValue digits ≥ UInt32.size then none
  else some (UInt32.ofNat (digitsValue digits))

/-- A number in decimal digits. -/
def writeUInt32 (n : UInt32) : List Char := Nat.toDigits 10 n.toNat

end TableDraft.Text
