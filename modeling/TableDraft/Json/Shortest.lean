/-!
# Numbers with a point

The text of a number that a document writes with a fraction or an exponent: the fewest decimal
digits that lie nearer to the same binary number of 64 bits than to any other, and of several the
nearest. Digits are chosen in exact arithmetic on natural numbers (`Binary.digits`); the point is
placed by `place`: in plain notation from 0.00001 up to sixteen digits before the point, and with an
exponent beyond.
-/

namespace TableDraft.Json

/-- Ten to a natural power. -/
def tenPow (n : Nat) : Nat := Nat.pow 10 n

/-- Two to a natural power. -/
def twoPow (n : Nat) : Nat := Nat.pow 2 n

/-- A number as a document writes it: a sign, a whole number, and the power of ten it is scaled by. -/
structure Real where
  negative : Bool
  significand : Nat
  exponent : Int
deriving DecidableEq, Repr

/-- The positive number `mantissa · 2 ^ exponent`. `narrow` says that the number below is only half
as far as the one above. -/
structure Binary where
  mantissa : Nat
  exponent : Int
  narrow : Bool

namespace Binary

/-- The positive number with these bits; none for zero. -/
def ofBits? (bits : UInt64) : Option Binary :=
  let fraction : Nat := bits.toNat % twoPow 52
  let power : Nat := bits.toNat / twoPow 52 % twoPow 11
  if power = 0 then
    if fraction = 0 then none else some ⟨fraction, -1074, false⟩
  else some ⟨twoPow 52 + fraction, (power : Int) - 1075, fraction = 0 && power > 1⟩

/-- The number in quarters of its unit, and the limits of what is nearest to it. -/
def quarters (b : Binary) : Nat × Nat × Nat :=
  (4 * b.mantissa, 4 * b.mantissa - (if b.narrow then 1 else 2), 4 * b.mantissa + 2)

/-- Ten to a power as a ratio of whole numbers. -/
def tenTo (k : Int) : Nat × Nat := (tenPow k.toNat, tenPow (-k).toNat)

/-- Two to a power as a ratio of whole numbers. -/
def twoTo (k : Int) : Nat × Nat := (twoPow k.toNat, twoPow (-k).toNat)

/-- A whole number so that it times ten to the power `k` is nearest to the number, if that lies in
the limits. -/
def onGrid? (b : Binary) (k : Int) : Option Nat :=
  let (v, low, high) := b.quarters
  let (p, q) := twoTo (b.exponent - 2)
  let (s, t) := tenTo k
  let unit := q * s
  let scale := p * t
  let below := v * scale / unit
  let inside (d : Nat) : Bool :=
    if b.mantissa % 2 = 0 then low * scale ≤ d * unit && d * unit ≤ high * scale
    else low * scale < d * unit && d * unit < high * scale
  let farBelow := v * scale - below * unit
  let farAbove := (below + 1) * unit - v * scale
  if inside below && (!inside (below + 1) || farBelow ≤ farAbove) then some below
  else if inside (below + 1) then some (below + 1)
  else none

/-- The power of ten of the first digit. -/
def magnitude (b : Binary) : Int :=
  let (p, q) := twoTo b.exponent
  ((Nat.toDigits 10 (b.mantissa * p * tenPow 400 / q)).length : Int) - 401

/-- The first of some more digits that is enough, from `n` digits on. -/
def digitsFrom (b : Binary) (n : Nat) : Nat → Nat × Int
  | 0 => (b.mantissa, 0)
  | more + 1 =>
    let k := b.magnitude - (n : Int) + 1
    match b.onGrid? k with
    | some d => (d, k)
    | none => digitsFrom b (n + 1) more

/-- The fewest digits that stand for the number, and the power of ten of the last one. -/
def digits (b : Binary) : Nat × Int := b.digitsFrom 1 17

end Binary

/-- The number without zeros at its end, each of which moves the power of ten. -/
def dropZeros : Nat → Nat × Int → Nat × Int
  | 0, x => x
  | n + 1, (d, k) => if d % 10 = 0 && d ≠ 0 then dropZeros n (d / 10, k + 1) else (d, k)

/-- Digits with a point or an exponent; the last digit stands for ten to the power `k`. -/
def place (digits : List Char) (k : Int) : List Char :=
  let point : Int := digits.length + k
  if 0 ≤ k && point ≤ 16 then digits ++ List.replicate k.toNat '0' ++ ['.', '0']
  else if 0 < point && point ≤ 16 then
    digits.take point.toNat ++ '.' :: digits.drop point.toNat
  else if -5 < point && point ≤ 0 then '0' :: '.' :: List.replicate (-point).toNat '0' ++ digits
  else
    let power : Int := point - 1
    let exponent := (if power < 0 then ['-'] else []) ++ Nat.toDigits 10 power.natAbs
    match digits with
    | [d] => d :: 'e' :: exponent
    | d :: r => d :: '.' :: r ++ 'e' :: exponent
    | [] => []

namespace Real

/-- The binary number for a whole number scaled by a power of ten: it is rounded before it is scaled
and after. -/
def scaled (significand : Nat) (exponent : Int) : Float :=
  let f := Float.ofScientific significand false 0
  if 0 ≤ exponent then f * Float.ofScientific 1 false exponent.toNat
  else if -308 ≤ exponent then f / Float.ofScientific 1 false (-exponent).toNat
  else if -616 ≤ exponent then
    f / Float.ofScientific 1 false 308 / Float.ofScientific 1 false (-exponent - 308).toNat
  else 0.0

/-- The shortest text of the number. -/
def text (r : Real) : List Char :=
  let sign := if r.negative then ['-'] else []
  match Binary.ofBits? (if r.significand = 0 then 0 else (scaled r.significand r.exponent).toBits) with
  | none => sign ++ "0.0".toList
  | some b =>
    let (d, k) := dropZeros 20 b.digits
    sign ++ place (Nat.toDigits 10 d) k

end Real

end TableDraft.Json
