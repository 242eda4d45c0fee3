import TableDraft.Select.Pieces
import TableDraft.Select.Remark

/-!
# Remarks by the expression they trail

In a select list a line remark tells what the expression before it means. `RemarkTable` keeps these
remarks under the words of the expression, so that spacing and line breaks do not matter; a later
remark on the same words replaces the earlier one. `ofClause` collects the remarks of a list.
-/

namespace TableDraft.Select

open Text

/-- Remarks under the words of the expression that they are about, each expression once. -/
structure RemarkTable where
  entries : List (List (List Char) × String)
deriving DecidableEq, Repr

namespace RemarkTable

/-- No remarks. -/
def empty : RemarkTable := ⟨[]⟩

/-- Puts a remark under an expression, in place of the one that was there. -/
def insert (t : RemarkTable) (expr : List Char) (remark : String) : RemarkTable :=
  ⟨(words expr, remark) :: t.entries.filter (fun e => e.1 != words expr)⟩

/-- The remark on an expression. -/
def get? (t : RemarkTable) (expr : List Char) : Option String :=
  t.entries.lookup (words expr)

/-- How many expressions have a remark. -/
def size (t : RemarkTable) : Nat := t.entries.length

/-- No expression has a remark. -/
def isEmpty (t : RemarkTable) : Bool := t.entries.isEmpty

/-! ## Collecting -/

/-- The text before the first `--` and the text after it. -/
def cutAtMark : List Char → Option (List Char × List Char)
  | [] => none
  | c :: r =>
    if c == '-' && r.head? == some '-' then some ([], r.tail)
    else (cutAtMark r).map (fun p => (c :: p.1, p.2))

/-- The expression that a remark after the given text is about: the last piece of it that is not
empty. -/
def subject? (before : List Char) : Option (List Char) :=
  (pieces (Remark.strip before)).reverse.find? (fun e => !e.isEmpty)

/-- The expression and the remark of one line. -/
def entryOfLine? (line : List Char) : Option (List Char × String) :=
  match cutAtMark line with
  | none => none
  | some (before, after) =>
    if isBlankText after then none
    else (subject? before).map (fun e => (e, String.ofList (trim after)))

/-- The remarks of a select list, line by line. -/
def ofClause (clause : List Char) : RemarkTable :=
  ((clause.splitOn '\n').filterMap entryOfLine?).foldl (fun t e => t.insert e.1 e.2) empty

end RemarkTable

end TableDraft.Select
