import TableDraft.Json.Basic
import TableDraft.Json.Fault

/-!
# Reading documents

`Document.ofText` reads a text as far as it goes. What cannot be read stays in the document as a
fault at its place, so that who walks through the document in order meets the first of all faults,
those of the text and those of what it says. Some faults are met only by who asks for the value and
not by who skips it (half a surrogate pair, a number out of range), and some are worded differently
for the two; a `bad` place and a `Stop` keep both.

`Document.ofJson` is the document of a value.
-/

namespace TableDraft.Json

/-- The faults at a place where reading stops: for who uses the value there, and for who skips it. -/
structure Stop where
  used : Cause
  skipped : Cause
deriving DecidableEq, Repr

/-- The same fault for both. -/
def Stop.both (c : Cause) : Stop := ⟨c, c⟩

/-- What could be read of a text. -/
inductive Document where
  | null
  | bool (b : Bool)
  | int (n : Int)
  | real (r : Real)
  | string (s : String)
  /-- No value: the character that stands there, the fault for who uses it, and the fault for who
  skips it if that is one. -/
  | bad (lead : Option Char) (used : Cause) (skipped : Option Cause)
  /-- Items, and the faults after them if the list does not end well. -/
  | array (items : List Document) (stop : Option Stop)
  /-- Members, and the faults after them if the object does not end well. A member's key is a string
  or what stands in its place; then its value has the faults. -/
  | object (members : List (Document × Document)) (stop : Option Stop)

namespace Document

/-! ## Small parts -/

/-- A blank between the parts of a document. -/
def isSpace (c : Char) : Bool := c == ' ' || c == '\n' || c == '\t' || c == '\r'

/-- The text without the blanks at its start. -/
def skipSpace (s : List Char) : List Char := s.dropWhile isSpace

/-- A value and the text after it; no text when reading stops there. -/
abbrev Reading := Document × Option (List Char)

/-- A place where reading stops for one reason. -/
def broken (lead : Option Char) (c : Cause) : Reading := (bad lead c (some c), none)

/-- The rest of a word whose first letter is read. -/
def readWord (value : Document) (lead : Char) : List Char → List Char → Reading
  | [], s => (value, some s)
  | _ :: _, [] => broken (some lead) .endInValue
  | w :: ws, c :: r => if c == w then readWord value lead ws r else broken (some lead) .expectedIdent

/-! ## Strings -/

/-- The text is at least so many bytes long. -/
def hasBytes (n : Nat) : List Char → Bool
  | [] => n == 0
  | c :: r => hasBytes (n - c.utf8Size) r

/-- The value of a hexadecimal digit of either case. -/
def hexValue? (c : Char) : Option Nat :=
  if c.isDigit then some (c.toNat - 48)
  else if 'a' ≤ c && c ≤ 'f' then some (c.toNat - 87)
  else if 'A' ≤ c && c ≤ 'F' then some (c.toNat - 55)
  else none

/-- Where the reading of a string stands. -/
inductive StringState where
  /-- Between characters. A first half of a surrogate pair may wait for the second. -/
  | plain (half : Option Nat)
  /-- After a backslash. -/
  | escape (half : Option Nat)
  /-- In a code of four digits, some of which are read. -/
  | code (half : Option Nat) (count value : Nat)

/-- The characters read, last first, or the fault for who uses the string. -/
abbrev Collected := Except Cause (List Char)

/-- One more character. -/
def Collected.push (text : Collected) (c : Char) : Collected := text.map (c :: ·)

/-- A fault, unless there is one already. -/
def Collected.fail (text : Collected) (c : Cause) : Collected := text.bind (fun _ => .error c)

/-- What a code of four digits adds to the text, and the half that then waits. -/
def endCode (text : Collected) (half : Option Nat) (n : Nat) : Collected × Option Nat :=
  match half with
  | none =>
    if 0xDC00 ≤ n && n ≤ 0xDFFF then (text.fail .loneSurrogate, none)
    else if 0xD800 ≤ n && n ≤ 0xDBFF then (text, some n)
    else (text.push (Char.ofNat n), none)
  | some m =>
    if 0xDC00 ≤ n && n ≤ 0xDFFF then
      (text.push (Char.ofNat (0x10000 + (m - 0xD800) * 0x400 + (n - 0xDC00))), none)
    else (text.fail .loneSurrogate, none)

/-- The character that a letter after a backslash stands for. -/
def escaped? (c : Char) : Option Char :=
  match c with
  | '"' => some '"'
  | '\\' => some '\\'
  | '/' => some '/'
  | 'b' => some '\x08'
  | 'f' => some '\x0c'
  | 'n' => some '\n'
  | 'r' => some '\r'
  | 't' => some '\t'
  | _ => none

/-- A half that waits is given up when no code follows it. -/
def dropHalf (text : Collected) (half : Option Nat) : Collected :=
  if half.isSome then text.fail .endOfHexEscape else text

/-- The text of a string after its opening quote, and the rest of the document. -/
def readString (text : Collected) : StringState → List Char → Collected × Except Cause (List Char)
  | _, [] => (text.fail .endInString, .error .endInString)
  | .plain half, c :: r =>
    if c == '\\' then readString text (.escape half) r
    else
      let text := dropHalf text half
      if c == '"' then (text.map List.reverse, .ok r)
      else if c.toNat < 32 then (text.fail .controlCharacter, .error .controlCharacter)
      else readString (text.push c) (.plain none) r
  | .escape half, c :: r =>
    if c == 'u' then readString text (.code half 0 0) r
    else
      let text := dropHalf text half
      match escaped? c with
      | some d => readString (text.push d) (.plain none) r
      | none => (text.fail .invalidEscape, .error .invalidEscape)
  | .code half count value, c :: r =>
    match hexValue? c with
    | some d =>
      let n := 16 * value + d
      if count < 3 then readString text (.code half (count + 1) n) r
      else
        let (text, half) := endCode text half n
        readString text (.plain half) r
    | none =>
      let cause := if hasBytes (4 - count) (c :: r) then Cause.invalidEscape else .endInString
      (text.fail cause, .error cause)

/-- A string after its opening quote. -/
def readStringValue (s : List Char) : Reading :=
  match readString (.ok []) (.plain none) s with
  | (.ok text, .ok rest) => (string (String.ofList text), some rest)
  | (.ok _, .error c) => broken (some '"') c
  | (.error used, .ok rest) => (bad (some '"') used none, some rest)
  | (.error used, .error skipped) => (bad (some '"') used (some skipped), none)

/-! ## Numbers -/

/-- The largest whole number of 64 bits. -/
def maxWhole : Nat := twoPow 64 - 1

/-- Takes digits into a whole number for as long as it stays within 64 bits: the number, and how
many digits were taken. -/
def takeDigits (n : Nat) (count : Nat) : List Char → Nat × Nat
  | [] => (n, count)
  | c :: r =>
    let m := 10 * n + (c.toNat - 48)
    if m ≤ maxWhole then takeDigits m (count + 1) r else (n, count)

/-- A place where a number is broken off, for who uses it and for who skips it. -/
def badNumber (lead : Char) (used : Cause) : Reading :=
  (bad (some lead) used (some .invalidNumber), none)

/-- The number is below what 64 bits can hold with a fraction. -/
def isFinite (significand : Nat) (exponent : Int) : Bool :=
  significand == 0 || (exponent ≤ 308 && significand * tenPow exponent.toNat < twoPow 1024 - twoPow 970)

/-- A number with a fraction or an exponent. -/
def realValue (lead : Char) (r : Real) : Document :=
  if isFinite r.significand r.exponent then real r else bad (some lead) .numberOutOfRange none

/-- The largest exponent that is read. -/
def maxExponent : Nat := 2147483647

/-- The exponent of a number, after its letter. -/
def readExponent (lead : Char) (r : Real) (s : List Char) : Reading :=
  let (down, s) := match s with
    | '+' :: s => (false, s)
    | '-' :: s => (true, s)
    | s => (false, s)
  let digits := s.takeWhile Char.isDigit
  let rest := s.drop digits.length
  if digits.isEmpty then
    badNumber lead (if s.isEmpty then .endInValue else .invalidNumber)
  else
    let e := digits.foldl (fun n c => 10 * n + (c.toNat - 48)) 0
    if e ≤ maxExponent then
      (realValue lead { r with exponent := if down then r.exponent - e else r.exponent + e }, some rest)
    else if r.significand ≠ 0 && !down then (bad (some lead) .numberOutOfRange none, some rest)
    else (real { r with significand := 0 }, some rest)

/-- What follows the digits of a number with a fraction, or of a whole number that is too large. -/
def readScale (lead : Char) (r : Real) (s : List Char) : Reading :=
  match s with
  | 'e' :: s | 'E' :: s => readExponent lead r s
  | s => (realValue lead r, some s)

/-- The fraction of a number, after its point. -/
def readFraction (lead : Char) (r : Real) (s : List Char) : Reading :=
  let digits := s.takeWhile Char.isDigit
  let rest := s.drop digits.length
  if digits.isEmpty then badNumber lead (if s.isEmpty then .endInValue else .invalidNumber)
  else
    let (n, count) := takeDigits r.significand 0 digits
    readScale lead { r with significand := n, exponent := r.exponent - count } rest

/-- A whole number of 64 bits; what does not fit is a number with a fraction. -/
def wholeValue (lead : Char) (negative : Bool) (n : Nat) : Document :=
  if !negative then int n
  else if n ≠ 0 && n ≤ twoPow 63 then int (-(n : Int))
  else realValue lead ⟨true, n, 0⟩

/-- A number after its sign. -/
def readNumber (lead : Char) (negative : Bool) (s : List Char) : Reading :=
  let digits := s.takeWhile Char.isDigit
  let rest := s.drop digits.length
  match digits with
  | [] => badNumber lead (if s.isEmpty then .endInValue else .invalidNumber)
  | '0' :: _ :: _ => badNumber lead .invalidNumber
  | _ =>
    let (n, count) := takeDigits 0 0 digits
    let r : Real := ⟨negative, n, digits.length - count⟩
    match rest with
    | '.' :: rest => readFraction lead r rest
    | rest =>
      if count < digits.length || rest.head? == some 'e' || rest.head? == some 'E' then
        readScale lead r rest
      else (wholeValue lead negative n, some rest)

/-! ## Values -/

mutual

/-- A value at the start of a text. The count bounds how deeply values nest and how many follow each
other; the length of the text is enough. -/
def readValue : Nat → List Char → Reading
  | 0, _ => broken none .recursionLimit
  | n + 1, s =>
    match skipSpace s with
    | [] => broken none .endInValue
    | c :: r =>
      if c == 'n' then readWord null c "ull".toList r
      else if c == 't' then readWord (bool true) c "rue".toList r
      else if c == 'f' then readWord (bool false) c "alse".toList r
      else if c == '"' then readStringValue r
      else if c == '-' then readNumber c true r
      else if c.isDigit then readNumber c false (c :: r)
      else if c == '[' then
        let (items, stop, rest) := readItems n true r
        (array items stop, rest)
      else if c == '{' then
        let (members, stop, rest) := readMembers n true r
        (object members stop, rest)
      else broken (some c) .expectedValue

/-- The items of a list from here on, and how it ends. -/
def readItems : Nat → Bool → List Char → List Document × Option Stop × Option (List Char)
  | 0, _, _ => ([], some (.both .recursionLimit), none)
  | n + 1, first, s =>
    let item (s : List Char) : List Document × Option Stop × Option (List Char) :=
      match readValue n s with
      | (d, none) => ([d], none, none)
      | (d, some rest) =>
        let (items, stop, rest) := readItems n false rest
        (d :: items, stop, rest)
    match skipSpace s with
    | [] => ([], some (.both .endInList), none)
    | c :: r =>
      if c == ']' then ([], none, some r)
      else if first then item (c :: r)
      else if c == ',' then
        match skipSpace r with
        | [] => ([], some (.both .endInValue), none)
        | d :: r =>
          if d == ']' then ([], some ⟨.trailingComma, .expectedValue⟩, none) else item (d :: r)
      else ([], some (.both .expectedListCommaOrEnd), none)

/-- The members of an object from here on, and how it ends. -/
def readMembers :
    Nat → Bool → List Char → List (Document × Document) × Option Stop × Option (List Char)
  | 0, _, _ => ([], some (.both .recursionLimit), none)
  | n + 1, first, s =>
    let member (s : List Char) : List (Document × Document) × Option Stop × Option (List Char) :=
      match s with
      | '"' :: r =>
        match readStringValue r with
        | (key, none) =>
          match key with
          | bad lead used skipped => ([(key, bad lead used skipped)], none, none)
          | key => ([(key, key)], none, none)
        | (key, some rest) =>
          match skipSpace rest with
          | [] => ([(key, bad none .endInObject (some .endInObject))], none, none)
          | c :: r =>
            if c == ':' then
              match readValue n r with
              | (d, none) => ([(key, d)], none, none)
              | (d, some rest) =>
                let (members, stop, rest) := readMembers n false rest
                ((key, d) :: members, stop, rest)
            else ([(key, bad (some c) .expectedColon (some .expectedColon))], none, none)
      | s => ([((readValue n s).1, bad none .keyMustBeString (some .keyMustBeString))], none, none)
    match skipSpace s with
    | [] => ([], some (.both .endInObject), none)
    | c :: r =>
      if c == '\x7d' then ([], none, some r)
      else if first then member (c :: r)
      else if c == ',' then
        match skipSpace r with
        | [] => ([], some ⟨.endInValue, .endInObject⟩, none)
        | d :: r =>
          if d == '\x7d' then ([], some ⟨.trailingComma, .keyMustBeString⟩, none)
          else member (d :: r)
      else ([], some (.both .expectedObjectCommaOrEnd), none)

end

/-- The document of a text, and whether something other than blanks follows it. -/
def ofText (s : List Char) : Document × Bool :=
  match readValue (2 * s.length + 2) s with
  | (d, some rest) => (d, !(skipSpace rest).isEmpty)
  | (d, none) => (d, false)

/-! ## Documents of values -/

mutual

/-- The document that holds a value. -/
def ofJson : Json → Document
  | .null => null
  | .bool b => bool b
  | .int n => int n
  | .string s => string s
  | .array items => array (ofItems items) none
  | .object members => object (ofMembers members) none

/-- The documents that hold some values. -/
def ofItems : List Json → List Document
  | [] => []
  | j :: r => ofJson j :: ofItems r

/-- The members that hold some values. -/
def ofMembers : List (String × Json) → List (Document × Document)
  | [] => []
  | (k, j) :: r => (string k, ofJson j) :: ofMembers r

end

end Document

end TableDraft.Json
