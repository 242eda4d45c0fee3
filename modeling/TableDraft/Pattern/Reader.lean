import TableDraft.Pattern.Basic

/-!
# Reading patterns

The written form of patterns: literals, escapes, classes in brackets with set operations, groups,
flags, alternatives and repetitions. There are no look-around groups and no references back to a
group. `Pattern.ofText?` gives no pattern for a text that is not one, that nests deeper than 250
levels, or whose repetitions make it too large.

Each reader takes the rest of the text and hands on what it leaves. The readers of groups and of
classes in classes call themselves on a shorter rest; they carry a count that starts at the length of
the text and so never runs out.
-/

namespace TableDraft.Pattern

open Unicode Text

/-! ## Flags -/

/-- The settings that a flag group changes. -/
structure Flags where
  /-- `i`: letter case does not matter. -/
  ignoreCase : Bool
  /-- `m`: line starts and ends count as text starts and ends do. -/
  lines : Bool := false
  /-- `s`: the dot matches a line feed too. -/
  dotAll : Bool := false
  /-- `R`: a return ends a line too. -/
  crlf : Bool := false
  /-- `u`: characters of all scripts. -/
  allScripts : Bool := true
  /-- `x`: blanks and comments in the pattern do not count. -/
  spaced : Bool := false

/-- Sets one flag; none when there is no such flag. -/
def Flags.set? (f : Flags) (name : Char) (on : Bool) : Option Flags :=
  match name with
  | 'i' => some { f with ignoreCase := on }
  | 'm' => some { f with lines := on }
  | 's' => some { f with dotAll := on }
  | 'U' => some f
  | 'R' => some { f with crlf := on }
  | 'u' => some { f with allScripts := on }
  | 'x' => some { f with spaced := on }
  | _ => none

/-- The text after the blanks and the comments at its start; a comment runs from `#` to the end of
its line. -/
def skipSpaced (inComment : Bool) : List Char → List Char
  | [] => []
  | c :: r =>
    if inComment then skipSpaced (c != '\n') r
    else if isBlank c then skipSpaced false r
    else if c == '#' then skipSpaced true r
    else c :: r

/-- The text after what the flags say does not count. -/
def Flags.skip (f : Flags) (s : List Char) : List Char :=
  if f.spaced then skipSpaced false s else s

/-! ## Numbers and names -/

/-- Digits at the start of the text, and the rest. -/
def readDigits (f : Flags) (isDigit : Char → Bool) : List Char → Nat → List Char × List Char
  | c :: r, n + 1 =>
    if isDigit c then
      let (ds, rest) := readDigits f isDigit (f.skip r) n
      (c :: ds, rest)
    else ([], c :: r)
  | s, _ => ([], s)

/-- A hexadecimal digit of either case. -/
def isHexDigit (c : Char) : Bool :=
  c.isDigit || ('a' ≤ c && c ≤ 'f') || ('A' ≤ c && c ≤ 'F')

/-- The value of a hexadecimal digit in lower case; 0 for any other character. -/
def hexValue (c : Char) : Nat :=
  if c.isDigit then c.toNat - 48
  else if 'a' ≤ c && c ≤ 'f' then c.toNat - 87
  else 0

/-- The number that hexadecimal digits of either case write. -/
def hexNumber (s : List Char) : Nat :=
  s.foldl (fun n c => 16 * n + hexValue c.toLower) 0

/-- The number that decimal digits write. -/
def decimalNumber (s : List Char) : Nat := s.foldl (fun n c => 10 * n + (c.toNat - 48)) 0

/-- The character with a code point; none for surrogates and beyond the last one. -/
def char? (n : Nat) : Option Char :=
  if n.isValidChar then some (Char.ofNat n) else none

/-- The largest bound of a repetition. -/
def maxCount : Nat := 4294967295

/-- A bound of a repetition, with blanks around it; none when there is no digit. -/
def readCount (f : Flags) (s : List Char) : Option (Option Nat × List Char) :=
  let s := trimStart s
  let (ds, rest) := readDigits f Char.isDigit s s.length
  let rest := f.skip (trimStart rest)
  if ds.isEmpty then some (none, rest)
  else if decimalNumber ds ≤ maxCount then some (some (decimalNumber ds), rest)
  else none

/-- The bounds of a repetition, after its opening brace: the least, the most, and the rest. -/
def readBounds (f : Flags) (s : List Char) : Option (Nat × Option Nat × List Char) := do
  let s := f.skip s
  if s.isEmpty then none
  let (least, s) ← readCount f s
  match s with
  | ',' :: r =>
    let n ← least
    match f.skip r with
    | '\x7d' :: r => some (n, none, r)
    | r =>
      let (most, r) ← readCount f r
      let m ← most
      match r with
      | '\x7d' :: r => if n ≤ m then some (n, some m, r) else none
      | _ => none
  | '\x7d' :: r => least.map (fun n => (n, some n, r))
  | _ => none

/-- A character of the name of a group. -/
def isNameChar (first : Bool) (c : Char) : Bool :=
  if first then c == '_' || isAlphabetic c
  else c == '_' || c == '.' || c == '[' || c == ']' || isAlphabetic c || isNumeric c

/-- The name of a group up to its closing angle bracket. -/
def readName (first : Bool) : List Char → Option (List Char × List Char)
  | [] => none
  | c :: r =>
    if c == '>' then if first then none else some ([], r)
    else if isNameChar first c then (readName false r).map (fun p => (c :: p.1, p.2))
    else none

/-! ## Single things -/

/-- What one escape or plain character stands for. -/
inductive Primitive where
  | char (c : Char)
  | set (s : CharSet)
  | anchor (a : Anchor)

/-- A set as the flags want it: closed under letter case, and then negated. Outside of all scripts
the result must stay within ASCII. -/
def finishSet (f : Flags) (negated : Bool) (s : CharSet) : Option CharSet :=
  let s := if f.ignoreCase then
      if f.allScripts then .folded s else .inter (.folded s) (.ascii (fun _ => true))
    else s
  let s := if negated then .complement s else s
  if !f.allScripts && s.mem (Char.ofNat 0x80) then none else some s

/-- The set of a single character. -/
def charSet (f : Flags) (c : Char) : Option CharSet :=
  if !f.allScripts && !isAscii c then some (.single c) else finishSet f false (.single c)

/-- A class of characters by its name between braces, or by one letter. -/
def readNamed (f : Flags) (s : List Char) : Option (CharClass × Bool × List Char) :=
  match f.skip s with
  | '{' :: r =>
    let body := r.takeWhile (· != '\x7d')
    match r.drop body.length with
    | [] => none
    | _ :: rest =>
      let name := if f.spaced then (body.splitOn '\n').flatMap (fun l => l.filter (!isBlank ·)) else body
      match name.span (fun c => c != '=' && c != ':' && c != '!') with
      | (p, '!' :: '=' :: v) => (valuedClass? p v).map (fun k => (k, true, rest))
      | (p, ':' :: v) => (valuedClass? p v).map (fun k => (k, false, rest))
      | (p, '=' :: v) => (valuedClass? p v).map (fun k => (k, false, rest))
      | _ => (namedClass? name).map (fun k => (k, false, rest))
  | '\\' :: _ => none
  | c :: r => (namedClass? [c]).map (fun k => (k, false, r))
  | [] => none

/-- A character by its code point, with a fixed number of digits or between braces. The flag tells
whether it is the two-digit form, which names a byte. -/
def readCodePoint (f : Flags) (digits : Nat) (s : List Char) : Option (Char × Bool × List Char) :=
  match f.skip s with
  | '{' :: r =>
    let s := f.skip r
    let (ds, rest) := readDigits f isHexDigit s s.length
    match rest with
    | '\x7d' :: r =>
      if ds.isEmpty then none else (char? (hexNumber ds)).map (fun c => (c, false, f.skip r))
    | _ => none
  | s =>
    let (ds, rest) := readDigits f isHexDigit s digits
    if ds.length = digits then (char? (hexNumber ds)).map (fun c => (c, digits == 2, rest)) else none

/-- A special word edge in braces after the letter `b`. None when it is not one of them; the plain
edge when what stands in braces does not start like a name. -/
def readWordEdge (f : Flags) (s : List Char) : Option (Anchor × List Char) :=
  let u := f.allScripts
  match s with
  | '{' :: r =>
    let isName (c : Char) : Bool := c.isAlpha || c == '-'
    let body := f.skip r
    match body with
    | [] => none
    | c :: _ =>
      if !isName c then some (.wordEdge u, s)
      else
        let (name, rest) := readDigits f isName body body.length
        match rest with
        | '\x7d' :: r =>
          match String.ofList name with
          | "start" => some (.wordStart u, r)
          | "end" => some (.wordEnd u, r)
          | "start-half" => some (.noWordBefore u, r)
          | "end-half" => some (.noWordAfter u, r)
          | _ => none
        | _ => none
  | _ => some (.wordEdge u, s)

/-- The characters with a meaning of their own, which a backslash takes from them. -/
def isMeta (c : Char) : Bool := "\\.+*?()|[]\x7b\x7d^$#&-~".toList.contains c

/-- A control character by its letter. -/
def controlChar? (c : Char) : Option Char :=
  match c with
  | 'a' => some '\x07'
  | 'f' => some '\x0c'
  | 't' => some '\t'
  | 'n' => some '\n'
  | 'r' => some '\r'
  | 'v' => some '\x0b'
  | _ => none

/-- What follows a backslash. -/
def readEscape (f : Flags) (s : List Char) : Option (Primitive × List Char) :=
  let u := f.allScripts
  match s with
  | [] => none
  | c :: r =>
    let codePoint (digits : Nat) : Option (Primitive × List Char) := do
      let (d, isByte, rest) ← readCodePoint f digits r
      if !u && isByte && !isAscii d then none else some (.char d, rest)
    let named (negated : Bool) : Option (Primitive × List Char) := do
      let (k, swapped, rest) ← readNamed f r
      if !u then none
      let s ← finishSet f (negated != swapped) (.those k)
      some (.set s, rest)
    let letters (negated : Bool) : Option (Primitive × List Char) := do
      let s ← CharSet.letterClass? u c.toLower
      if negated then if u then some (.set (.complement s), r) else none
      else some (.set s, r)
    match c with
    | 'x' => codePoint 2
    | 'u' => codePoint 4
    | 'U' => codePoint 8
    | 'p' => named false
    | 'P' => named true
    | 'd' | 's' | 'w' => letters false
    | 'D' | 'S' | 'W' => letters true
    | 'A' => some (.anchor .textStart, r)
    | 'z' => some (.anchor .textEnd, r)
    | 'b' => (readWordEdge f r).map (fun p => (.anchor p.1, p.2))
    | 'B' => some (.anchor (.noWordEdge u), r)
    | '<' => some (.anchor (.wordStart u), r)
    | '>' => some (.anchor (.wordEnd u), r)
    | _ =>
      match controlChar? c with
      | some d => some (.char d, r)
      | none => if isMeta c || (isAscii c && !c.isAlphanum) then some (.char c, r) else none

/-! ## Classes in brackets -/

/-- What is read of a set in brackets: its members up to now, how many they are and how deeply they
nest. -/
structure Members where
  set : CharSet
  count : Nat
  depth : Nat

namespace Members

/-- No members. -/
def none : Members := ⟨.none, 0, 0⟩

/-- One more member, of the given depth. -/
def add (m : Members) (s : CharSet) (depth : Nat) : Members :=
  ⟨if m.count = 0 then s else .union m.set s, m.count + 1, max m.depth depth⟩

/-- The depth of the members as one thing: several of them make a level of their own. -/
def level (m : Members) : Nat := if m.count ≤ 1 then m.depth else m.depth + 1

end Members

/-- The operations between sets in brackets. -/
inductive SetOp where
  | intersection
  | difference
  | symmetricDifference

/-- A left operand that waits for its right one, with its depth. -/
structure Pending where
  op : SetOp
  left : CharSet
  depth : Nat

/-- Closes the members read last, with the operand that waits for them. -/
def closeMembers (f : Flags) (pending : Option Pending) (m : Members) : CharSet × Nat :=
  match pending with
  | none => (m.set, m.level)
  | some p =>
    let fold (s : CharSet) : CharSet :=
      if f.ignoreCase then
        if f.allScripts then .folded s else .inter (.folded s) (.ascii (fun _ => true))
      else s
    let set := match p.op with
      | .intersection => .inter (fold p.left) (fold m.set)
      | .difference => .diff (fold p.left) (fold m.set)
      | .symmetricDifference => .symDiff (fold p.left) (fold m.set)
    (set, max p.depth m.level + 1)

/-- One end of a range, or a member by itself. -/
def readMember (f : Flags) (s : List Char) : Option (Primitive × List Char) :=
  match s with
  | '\\' :: r => readEscape f r
  | c :: r => some (.char c, r)
  | [] => none

/-- A character that a class can hold under the flags. -/
def memberChar? (f : Flags) : Primitive → Option Char
  | .char c => if f.allScripts || isAscii c then some c else none
  | _ => none

/-- The set of a member that is not part of a range. -/
def memberSet? (f : Flags) : Primitive → Option CharSet
  | .char c => (memberChar? f (.char c)).map .single
  | .set s => some s
  | .anchor _ => none

/-- A member of a class: a range or a single thing. -/
def readRange (f : Flags) (s : List Char) : Option (CharSet × List Char) := do
  let (first, s) ← readMember f s
  let s := f.skip s
  match s with
  | [] => none
  | '-' :: r =>
    let r' := f.skip r
    if r'.head? == some ']' || r'.head? == some '-' then
      (memberSet? f first).map (fun set => (set, s))
    else
      let (last, rest) ← readMember f r'
      let a ← memberChar? f first
      let b ← memberChar? f last
      if a ≤ b then some (.range a b, rest) else none
  | _ => (memberSet? f first).map (fun set => (set, s))

/-- A class name between `[:` and `:]`, after the bracket; negated or not. -/
def readAsciiClass (s : List Char) : Option ((Char → Bool) × Bool × List Char) :=
  match s with
  | ':' :: r =>
    let (negated, r) := match r with
      | '^' :: r => (true, r)
      | r => (false, r)
    let name := r.takeWhile (· != ':')
    match r.drop name.length with
    | ':' :: ']' :: rest => (CharSet.asciiClass? name).map (fun p => (p, negated, rest))
    | _ => none
  | _ => none

/-- The dashes that a class may start with are plain members. -/
def readDashes (f : Flags) (m : Members) : List Char → Nat → Members × List Char
  | '-' :: r, n + 1 => readDashes f (m.add (.single '-') 0) (f.skip r) n
  | s, _ => (m, s)

/-- The start of a class, after its bracket: whether it is negated, and the dashes and the bracket
that are members because they come first. -/
def openClass (f : Flags) (s : List Char) : Option (Bool × Members × List Char) :=
  let s := f.skip s
  let (negated, s) := match s with
    | '^' :: r => (true, f.skip r)
    | s => (false, s)
  let (m, s) := readDashes f .none s s.length
  match s with
  | [] => none
  | ']' :: r =>
    if m.count = 0 then
      let r := f.skip r
      if r.isEmpty then none else some (negated, m.add (.single ']') 0, r)
    else some (negated, m, s)
  | _ => some (negated, m, s)

/-- The members of a class up to its closing bracket. -/
def readMembers (f : Flags) : Nat → Option Pending → Members → List Char →
    Option (CharSet × Nat × List Char)
  | 0, _, _, _ => none
  | n + 1, pending, m, s =>
    let operator (op : SetOp) (r : List Char) : Option (CharSet × Nat × List Char) :=
      let (left, depth) := closeMembers f pending m
      readMembers f n (some ⟨op, left, depth⟩) .none r
    let single (s : List Char) : Option (CharSet × Nat × List Char) :=
      match readRange f s with
      | none => none
      | some (set, r) => readMembers f n pending (m.add set 0) r
    match f.skip s with
    | [] => none
    | ']' :: r =>
      let (set, depth) := closeMembers f pending m
      some (set, depth, r)
    | '[' :: r =>
      match readAsciiClass r with
      | some (p, negated, rest) =>
        match finishSet f false (.ascii p) with
        | none => none
        | some s => readMembers f n pending (m.add (if negated then .complement s else s) 0) rest
      | none =>
        match openClass f r with
        | none => none
        | some (negated, inner, r) =>
          match readMembers f n none inner r with
          | none => none
          | some (set, depth, rest) =>
            match finishSet f negated set with
            | none => none
            | some s => readMembers f n pending (m.add s (depth + 1)) rest
    | '&' :: '&' :: r => operator .intersection r
    | '-' :: '-' :: r => operator .difference r
    | '~' :: '~' :: r => operator .symmetricDifference r
    | s => single s

/-! ## Sequences and groups -/

/-- A part of a pattern with the levels that it nests; a bare flag group cannot be repeated. -/
structure Part where
  pattern : Pattern
  depth : Nat
  repeatable : Bool := true

/-- A class in brackets, after its first bracket. -/
def readClass (f : Flags) (s : List Char) : Option (Part × List Char) := do
  let (negated, m, r) ← openClass f s
  let (set, depth, rest) ← readMembers f (r.length + 1) none m r
  let set ← finishSet f negated set
  some (⟨.one set, depth + 1, true⟩, rest)

/-- The flags between `(?` and the parenthesis or the colon, with the letters seen before. -/
def readFlags (f : Flags) (on : Bool) (seen : List Char) : List Char → Option (Flags × Char × List Char)
  | [] => none
  | c :: r =>
    if c == ')' || c == ':' then
      if seen.head? == some '-' || (c == ')' && seen.isEmpty) then none else some (f, c, r)
    else if seen.contains c then none
    else if c == '-' then readFlags f false (c :: seen) r
    else match f.set? c on with
      | none => none
      | some f => readFlags f on (c :: seen) r

/-- How a group starts. -/
inductive Opening where
  /-- A flag group without a pattern of its own. -/
  | flags (f : Flags)
  /-- A group, the flags within it, and its name. -/
  | group (f : Flags) (name : Option (List Char))

/-- The start of a group, after its parenthesis. -/
def openGroup (f : Flags) (s : List Char) : Option (Opening × List Char) :=
  let named (r : List Char) : Option (Opening × List Char) :=
    (readName true r).map (fun p => (.group f (some p.1), p.2))
  match f.skip s with
  | '?' :: '=' :: _ | '?' :: '!' :: _ | '?' :: '<' :: '=' :: _ | '?' :: '<' :: '!' :: _ => none
  | '?' :: 'P' :: '<' :: r => named r
  | '?' :: '<' :: r => named r
  | '?' :: r =>
    match readFlags f true [] r with
    | none => none
    | some (g, stop, rest) => some (if stop == ')' then .flags g else .group g none, rest)
  | r => some (.group f none, r)

/-- Parts in a row, given last first. -/
def joinParts : List Part → Part
  | [] => ⟨.empty, 0, false⟩
  | [p] => p
  | ps => ⟨ps.foldl (fun q p => if q matches .empty then p.pattern else .seq p.pattern q) .empty,
      (ps.foldl (fun d p => max d p.depth) 0) + 1, true⟩

/-- Alternatives, given last first. -/
def joinAlternatives : List Part → Part
  | [] => ⟨.empty, 0, false⟩
  | [p] => p
  | p :: ps => ⟨ps.foldl (fun q p => .alt p.pattern q) p.pattern,
      (ps.foldl (fun d p => max d p.depth) p.depth) + 1, true⟩

/-- A repetition; an unlimited one of an unlimited one is a single one. -/
def repeatPattern (p : Pattern) (least : Nat) (most : Option Nat) : Pattern :=
  match p, most with
  | .repeated q l none, none => if l ≤ 1 && least ≤ 1 then .repeated q (l * least) none else .repeated p least none
  | _, _ => .repeated p least most

/-- Repeats the part read last. -/
def repeatLast (parts : List Part) (least : Nat) (most : Option Nat) : Option (List Part) :=
  match parts with
  | [] => none
  | p :: ps =>
    if p.repeatable then some (⟨repeatPattern p.pattern least most, p.depth + 1, true⟩ :: ps) else none

/-- Leaves out the question mark that makes a repetition prefer fewer rounds. -/
def dropLazy : List Char → List Char
  | '?' :: r => r
  | r => r

/-- What a dot matches. -/
def dot (f : Flags) : CharSet :=
  if f.dotAll then .all
  else if f.crlf then .complement (.union (.single '\n') (.single '\r'))
  else .complement (.single '\n')

/-- A single thing as a part. -/
def primitivePart (f : Flags) : Primitive → Option Part
  | .char c => (charSet f c).map (fun s => ⟨.one s, 0, true⟩)
  | .set s => some ⟨.one s, 0, true⟩
  | .anchor a => some ⟨.anchor a, 0, true⟩

/-- One character outside of classes that opens nothing. -/
def readPrimitive (f : Flags) (s : List Char) : Option (Part × List Char) :=
  match s with
  | [] => none
  | '\\' :: r => do
    let (p, rest) ← readEscape f r
    let part ← primitivePart f p
    some (part, rest)
  | '.' :: r => if f.allScripts then some (⟨.one (dot f), 0, true⟩, r) else none
  | '^' :: r =>
    let a := if f.lines then (if f.crlf then .lineStartCrlf else .lineStart) else .textStart
    some (⟨.anchor a, 0, true⟩, r)
  | '$' :: r =>
    let a := if f.lines then (if f.crlf then .lineEndCrlf else .lineEnd) else .textEnd
    some (⟨.anchor a, 0, true⟩, r)
  | c :: r => (primitivePart f (.char c)).map (fun part => (part, r))

/-- Reads up to a closing parenthesis or the end: the pattern, the group names seen, and the rest.
`parts` is what is read of the current alternative and `done` the alternatives before it, both last
first. -/
def readAlternatives : Nat → Flags → List (List Char) → List Part → List Part → List Char →
    Option (Part × List (List Char) × List Char)
  | 0, _, _, _, _, _ => none
  | n + 1, f, names, parts, done, s =>
    let uncounted (least : Nat) (most : Option Nat) (r : List Char) :
        Option (Part × List (List Char) × List Char) :=
      match repeatLast parts least most with
      | none => none
      | some parts => readAlternatives n f names parts done (dropLazy r)
    match f.skip s with
    | [] => some (joinAlternatives (joinParts parts :: done), names, [])
    | ')' :: r => some (joinAlternatives (joinParts parts :: done), names, ')' :: r)
    | '|' :: r => readAlternatives n f names [] (joinParts parts :: done) r
    | '(' :: r =>
      match openGroup f r with
      | none => none
      | some (.flags g, rest) => readAlternatives n g names (⟨.empty, 0, false⟩ :: parts) done rest
      | some (.group g name, rest) =>
        let known := name.toList ++ names
        if (name.map names.contains).getD false then none
        else match readAlternatives n g known [] [] rest with
          | some (inner, names, ')' :: rest) =>
            readAlternatives n f names (⟨inner.pattern, inner.depth + 1, true⟩ :: parts) done rest
          | _ => none
    | '[' :: r =>
      match readClass f r with
      | none => none
      | some (part, rest) => readAlternatives n f names (part :: parts) done rest
    | '?' :: r => uncounted 0 (some 1) r
    | '*' :: r => uncounted 0 none r
    | '+' :: r => uncounted 1 none r
    | '{' :: r =>
      match readBounds f r with
      | none => none
      | some (least, most, rest) => uncounted least most (f.skip rest)
    | s =>
      match readPrimitive f s with
      | none => none
      | some (part, rest) => readAlternatives n f names (part :: parts) done rest

/-- How deeply a pattern may nest. -/
def maxDepth : Nat := 250

/-- The pattern that a text writes, under the given flags. -/
def ofText? (f : Flags) (s : List Char) : Option Pattern :=
  match readAlternatives (s.length + 1) f [] [] [] s with
  | some (part, _, []) =>
    if part.depth ≤ maxDepth && part.pattern.weight ≤ maxWeight then some part.pattern else none
  | _ => none

end TableDraft.Pattern
