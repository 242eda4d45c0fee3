import TableDraft.Json.Document

/-!
# Values from documents

Readers of a document that expect a value of some type, and give the first fault in the order of the
text when there is none. Members that a type does not know are skipped; a member that comes twice is
a fault, also under two spellings of its name. A structure may also be written as a list of its
members in order. `Document.ofJson` and the readers undo each other where a `Codec` is faithful.
-/

namespace TableDraft.Json

namespace Document

/-! ## Faults -/

mutual

/-- The first fault for who skips the document. -/
def skipFault? : Document → Option Cause
  | bad _ _ skipped => skipped
  | array items stop => (itemsSkipFault? items).or (stop.map (·.skipped))
  | object members stop => (membersSkipFault? members).or (stop.map (·.skipped))
  | _ => none

/-- The first fault for who skips the items. -/
def itemsSkipFault? : List Document → Option Cause
  | [] => none
  | d :: r => (skipFault? d).or (itemsSkipFault? r)

/-- The first fault for who skips the members. -/
def membersSkipFault? : List (Document × Document) → Option Cause
  | [] => none
  | (_, d) :: r => (skipFault? d).or (membersSkipFault? r)

end

/-- The key of a member, or the fault that stands in its place. -/
def keyOf : Document × Document → Except Fault String
  | (string s, _) => .ok s
  | (bad _ used none, _) => .error (.malformed used)
  | (_, bad _ used _) => .error (.malformed used)
  | (_, _) => .error (.malformed .keyMustBeString)

mutual

/-- The first fault for who uses everything in the document, which may nest so many levels. -/
def useFault? (levels : Nat) : Document → Option Fault
  | bad _ used _ => some (.malformed used)
  | array items stop =>
    match levels with
    | 0 => some (.malformed .recursionLimit)
    | n + 1 => (itemsUseFault? n items).or (stop.map (fun s => .malformed s.used))
  | object members stop =>
    match levels with
    | 0 => some (.malformed .recursionLimit)
    | n + 1 => (membersUseFault? n members).or (stop.map (fun s => .malformed s.used))
  | _ => none

/-- The first fault for who uses everything in the items. -/
def itemsUseFault? (levels : Nat) : List Document → Option Fault
  | [] => none
  | d :: r => (useFault? levels d).or (itemsUseFault? levels r)

/-- The first fault for who uses everything in the members. -/
def membersUseFault? (levels : Nat) : List (Document × Document) → Option Fault
  | [] => none
  | (k, d) :: r =>
    match keyOf (k, d) with
    | .error f => some f
    | .ok _ => (useFault? levels d).or (membersUseFault? levels r)

end

/-- The fault where a value of another kind is expected. -/
def mismatch (d : Document) (expected : String) : Fault :=
  match d with
  | null => .mismatch .null expected
  | bool b => .mismatch (.bool b) expected
  | int n => .mismatch (.int n) expected
  | real r => .mismatch (.real r) expected
  | string s => .mismatch (.string s) expected
  | bad _ used _ => .malformed used
  | array _ _ => .mismatch .sequence expected
  | object _ _ => .mismatch .map expected

/-! ## Simple values -/

/-- A text. -/
def asString : Document → Except Fault String
  | string s => .ok s
  | d => .error (d.mismatch "a string")

/-- A whole number of 32 bits. -/
def asUInt32 : Document → Except Fault UInt32
  | int n =>
    if 0 ≤ n && n < UInt32.size then .ok (UInt32.ofNat n.toNat) else .error (.outOfRange n "u32")
  | d => .error (d.mismatch "u32")

/-- A signed whole number of 64 bits. -/
def asInt64 : Document → Except Fault Int64
  | int n =>
    if Int64.minValue.toInt ≤ n && n ≤ Int64.maxValue.toInt then .ok (Int64.ofInt n) else .error (.outOfRange n "i64")
  | d => .error (d.mismatch "i64")

/-- A value that may be null. -/
def asOption {α : Type} (read : Document → Except Fault α) : Document → Except Fault (Option α)
  | null => .ok none
  | d => (read d).map some

/-- The end of a list or an object, which is a fault if it does not end well. -/
def checkStop (stop : Option Stop) : Except Fault Unit :=
  match stop with
  | none => .ok ()
  | some s => .error (.malformed s.used)

/-- A list. -/
def asList {α : Type} (read : Document → Except Fault α) : Document → Except Fault (List α)
  | array items stop => do
    let values ← items.mapM read
    checkStop stop
    return values
  | d => .error (d.mismatch "a sequence")

/-- The members of an object under their names, in order. -/
def asEntries {α : Type} (read : Document → Except Fault α) :
    Document → Except Fault (List (String × α))
  | object members stop => do
    let values ← members.mapM (fun m => do
      let key ← keyOf m
      let value ← read m.2
      return (key, value))
    checkStop stop
    return values
  | d => .error (d.mismatch "a map")

/-! ## Words -/

/-- One of some known words. -/
def wordOf {α : Type} (known : List (String × α)) (name : String) : Except Fault α :=
  match known.lookup name with
  | some a => .ok a
  | none => .error (.unknownVariant name (known.map (·.1)))

/-- Null and nothing else. -/
def asUnit : Document → Except Fault Unit
  | null => .ok ()
  | d => .error (d.mismatch "unit")

/-- What has to come after the only member of an object that stands for a word. -/
def checkOnly (rest : List (Document × Document)) (stop : Option Stop) : Except Fault Unit :=
  match rest, stop with
  | [], none => .ok ()
  | [], some ⟨.endInObject, _⟩ => .error (.malformed .endInObject)
  | _, _ => .error (.malformed .expectedValue)

/-- A word of a choice; it may also be the only key of an object, with null as the value. -/
def asWord {α : Type} (known : List (String × α)) : Document → Except Fault α
  | string s => wordOf known s
  | object [] none => .error (.malformed .expectedValue)
  | object [] (some _) => .error (.malformed .endInValue)
  | object ((key, d) :: rest) stop =>
    match key with
    | string s => do
      let a ← wordOf known s
      asUnit d
      checkOnly rest stop
      return a
    | key => .error (key.mismatch "variant identifier")
  | bad none used _ => .error (.malformed used)
  | bad (some lead) used _ => .error (.malformed (if lead == '"' then used else .expectedValue))
  | _ => .error (.malformed .expectedValue)

/-! ## Structures -/

end Document

/-- A member of a structure: its name, other spellings of it, whether it has to be there, and how its
document changes the structure. -/
structure Member (σ : Type) where
  name : String
  aliases : List String
  required : Bool
  put : Document → σ → Except Fault σ

/-- A structure: its name, the value that members are put into, and the members in order. -/
structure Record (σ : Type) where
  title : String
  blank : σ
  members : List (Member σ)

namespace Record

variable {σ : Type}

/-- The member that a key names. -/
def find? (r : Record σ) (key : String) : Option (Member σ) :=
  r.members.find? (fun m => m.name == key || m.aliases.contains key)

/-- Puts the members of an object into a structure, in order; `seen` are the names put before. -/
def putMembers (r : Record σ) (value : σ) (seen : List String) :
    List (Document × Document) → Except Fault (σ × List String)
  | [] => .ok (value, seen)
  | m :: rest => do
    let key ← Document.keyOf m
    match r.find? key with
    | some member =>
      if seen.contains member.name then throw (.duplicate member.name)
      else
        let value ← member.put m.2 value
        putMembers r value (member.name :: seen) rest
    | none =>
      match m.2.skipFault? with
      | some c => throw (.malformed c)
      | none => putMembers r value seen rest

/-- The structure in the members of an object. -/
def ofMembers (r : Record σ) (members : List (Document × Document)) (stop : Option Stop) :
    Except Fault σ := do
  let (value, seen) ← r.putMembers r.blank [] members
  Document.checkStop stop
  match r.members.find? (fun m => m.required && !seen.contains m.name) with
  | some m => throw (.missing m.name)
  | none => return value

/-- What the structure expects of a list. -/
def expectedLength (r : Record σ) : String :=
  let n := r.members.length
  "struct " ++ r.title ++ " with " ++ toString n ++ (if n = 1 then " element" else " elements")

/-- Puts the items of a list into a structure, one for each member in order; and the items that are
left. -/
def putItems (r : Record σ) (stop : Option Stop) (value : σ) (count : Nat) :
    List (Member σ) → List Document → Except Fault (σ × List Document)
  | [], items => .ok (value, items)
  | m :: ms, d :: items => do
    let value ← m.put d value
    putItems r stop value (count + 1) ms items
  | m :: ms, [] => do
    Document.checkStop stop
    if m.required then throw (.tooShort count r.expectedLength)
    else putItems r stop value (count + 1) ms []

/-- What has to come after the last item that a structure takes from a list. -/
def checkEnd (left : List Document) (stop : Option Stop) : Except Fault Unit :=
  match left, stop with
  | [], none => .ok ()
  | [], some ⟨.endInList, _⟩ => .error (.malformed .endInList)
  | [], some ⟨.trailingComma, _⟩ => .error (.malformed .trailingComma)
  | _, _ => .error (.malformed .trailingCharacters)

/-- The structure in the items of a list. -/
def ofItems (r : Record σ) (items : List Document) (stop : Option Stop) : Except Fault σ := do
  let (value, left) ← r.putItems stop r.blank 0 r.members items
  checkEnd left stop
  return value

/-- Reads a structure from an object or from a list. -/
def read (r : Record σ) : Document → Except Fault σ
  | .object members stop => r.ofMembers members stop
  | .array items stop => r.ofItems items stop
  | d => .error (d.mismatch ("struct " ++ r.title))

/-- Reads a structure from an object only. -/
def readObject? (r : Record σ) : Document → Option σ
  | .object members stop => (r.ofMembers members stop).toOption
  | _ => none

end Record

/-- How values of a type are written to documents and read from them. -/
structure Codec (α : Type) where
  encode : α → Json
  decode : Document → Except Fault α

namespace Codec

variable {α : Type}

/-- What is written reads back as itself. -/
def Faithful (c : Codec α) : Prop := ∀ a, c.decode (Document.ofJson (c.encode a)) = .ok a

/-- Reads a value from the whole of a text. -/
def read (c : Codec α) (text : String) : Except Fault α :=
  let (d, more) := Document.ofText text.toList
  match c.decode d with
  | .error f => .error f
  | .ok a => if more then .error (.malformed .trailingCharacters) else .ok a

end Codec

end TableDraft.Json
