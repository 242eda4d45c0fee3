import TableDraft.Error
import TableDraft.Select.Clause
import TableDraft.Select.Field

/-!
# Reading the fields of a query

Query text is taken as one of three shapes, tried in turn: a query with a FROM, a query without one,
and a bare list of expressions. The first shape that yields a field decides.
-/

namespace TableDraft.Select

open Text

/-- The shapes of query text. -/
inductive Shape where
  /-- A SELECT with a FROM of its own. -/
  | selectFrom
  /-- A SELECT without one. -/
  | selectOnly
  /-- Expressions between commas. -/
  | fieldList
deriving DecidableEq, Repr

/-- What taking a text as one shape gives. -/
structure Outcome where
  /-- How many pieces the list has. -/
  candidates : Nat
  /-- The pieces that are fields, in order. -/
  fields : List Field
deriving DecidableEq, Repr

/-- The pieces of a list, or an error when its parentheses do not balance. -/
def splitFields (clause : List Char) : Except DraftError (List (List Char)) :=
  if balanced clause then .ok (pieces clause)
  else .error (.unbalancedParentheses (String.ofList (trim clause)))

/-- Reads a list whose remarks are in a table, or are not to be used. -/
def readList (remarks : Option RemarkTable) (clause : List Char) : Except DraftError Outcome :=
  (splitFields (Remark.strip clause)).map fun exprs =>
    ⟨exprs.length, exprs.filterMap (Field.ofExpression? remarks)⟩

/-- Reads a select list with the remarks on its lines. -/
def readClause (clause : List Char) : Except DraftError Outcome :=
  readList (some (RemarkTable.ofClause clause)) clause

namespace Shape

/-- All shapes, in the order in which they are tried. -/
def all : List Shape := [selectFrom, selectOnly, fieldList]

/-- The name of a shape. -/
def label : Shape → String
  | selectFrom => "SELECT…FROM"
  | selectOnly => "SELECT-only"
  | fieldList => "field list"

/-- Takes the text as one shape; none when it has not that shape. -/
def apply (sql : List Char) : Shape → Except DraftError (Option Outcome)
  | selectFrom => (selectFromClause sql).mapM readClause
  | selectOnly => (selectOnlyClause sql).mapM readClause
  | fieldList => (readList none sql).map some

end Shape

/-- The fields by the first of some shapes that yields one. `seen` says that a shape before had
candidates. -/
def firstFields (sql : List Char) (seen : Bool) : List Shape → Except DraftError (List Field)
  | [] => .error (if seen then .noFieldsRecognized else .unparsableSql)
  | shape :: rest => do
    match ← shape.apply sql with
    | none => firstFields sql seen rest
    | some outcome =>
      if outcome.fields.isEmpty then firstFields sql (seen || outcome.candidates > 0) rest
      else return outcome.fields

/-- The fields of query text. -/
def parseFields (sql : String) : Except DraftError (List Field) :=
  let text := trim sql.toList
  if text.isEmpty then .error .unparsableSql else firstFields text false Shape.all

end TableDraft.Select
