import TableDraft.Unicode.Category
import TableDraft.Unicode.Property
import TableDraft.Unicode.Script

/-!
# Classes of characters by name

Finds the test for a property, a general category or a script under one of its names. Names are
compared loosely: letter case, spaces, dashes, underscores and a leading "is" do not matter.
-/

namespace TableDraft.Unicode

/-- The name without what loose comparison ignores. -/
def looseName (name : List Char) : List Char :=
  let plain (s : List Char) : List Char :=
    (s.filter (fun c => isAscii c && c != ' ' && c != '_' && c != '-')).map Char.toLower
  if (name.take 2).map Char.toLower == ['i', 's'] then
    let r := plain (name.drop 2)
    if r == ['c'] then "isc".toList else r
  else plain name

/-- A class of characters: its test, and about how many ranges it takes to write it down. -/
structure CharClass where
  test : Char → Bool
  ranges : Nat

namespace CharClass

/-- The characters that one of some tables holds. -/
def ofTables (ts : List RangeTable) : CharClass :=
  ⟨fun c => ts.any (·.contains c), ts.foldl (fun n t => n + t.ranges.length) 0⟩

/-- The characters outside of a class. -/
def complement (k : CharClass) : CharClass := ⟨fun c => !k.test c, k.ranges + 1⟩

/-- The assigned characters. -/
def assigned : CharClass := { ofTables assignedTables with test := isAssigned }

/-- The characters that are no visible text: controls, format characters, private and unassigned
ones. -/
def other : CharClass :=
  { assigned.complement with
    test := fun c => !isAssigned c || [control, format, privateUse].any (·.contains c) }

end CharClass

/-- A general category, a group of them, or one of the sets that count as categories. -/
def category? (loose : String) : Option CharClass :=
  match loose with
  | "any" => some ⟨fun _ => true, 1⟩
  | "ascii" => some ⟨isAscii, 1⟩
  | "assigned" => some .assigned
  | "cn" | "unassigned" => some (CharClass.complement .assigned)
  | "c" | "other" | "isc" => some .other
  | "cs" | "surrogate" => some ⟨fun _ => false, 0⟩
  | _ => (categoryTables.lookup loose).map .ofTables

/-- A script. -/
def script? (loose : String) : Option CharClass :=
  if loose == "unknown" || loose == "zzzz" then
    some (CharClass.complement (.ofTables (scripts.map (·.table))))
  else (scripts.find? (fun s => s.names.contains loose)).map (fun s => .ofTables [s.table])

/-- A yes-or-no property. -/
def property? (loose : String) : Option CharClass :=
  match propertyTests.find? (fun e => e.names.contains loose) with
  | some e => some ⟨e.test, e.ranges⟩
  | none => (propertyTables.find? (fun e => e.1.contains loose)).map (fun e => .ofTables [e.2])

/-- What a single name stands for. A few short names of categories are taken before properties. -/
def namedClass? (name : List Char) : Option CharClass :=
  let loose := String.ofList (looseName name)
  let property := if loose == "cf" || loose == "sc" || loose == "lc" then none else property? loose
  (property.or (category? loose)).or (script? loose)

/-- What a property and its value stand for. -/
def valuedClass? (name value : List Char) : Option CharClass :=
  let loose := String.ofList (looseName value)
  match String.ofList (looseName name) with
  | "gc" | "generalcategory" => category? loose
  | "sc" | "script" => script? loose
  | _ => none

end TableDraft.Unicode
