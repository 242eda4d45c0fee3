import TableDraft.Ddl.Layout
import TableDraft.Select.Field
import TableDraft.Typing.ColumnType
import TableDraft.Typing.Inference
import TableDraft.Typing.RuleSet

/-!
# Drafting statements

From the fields of a query to the statements that create a table for its result, one per dialect
asked for.
-/

namespace TableDraft.Ddl

open Select

/-- A statement with the dialect it was asked for. -/
structure Draft where
  /-- The identifier as it was asked for. -/
  databaseType : String
  label : String
  ddl : String
deriving DecidableEq, Repr

variable [PatternEngine]

/-- The columns of the fields in a dialect. -/
def resolveColumns (fields : List Field) (rules : List TypeRule) (d : Dialect) : List Column :=
  fields.map fun f =>
    ⟨f.name, (Inference.infer f.name f.comment rules).columnType d, f.comment⟩

/-- The name of the key column: that of the first identifier code, else of the first other
identifier, else of the first field. -/
def primaryKey? (fields : List Field) : Option String :=
  (((fields.find? (fun f => Naming.isIdentifierCode f.name)).or
    (fields.find? (fun f => Naming.isGenericId f.name))).or fields.head?).map (·.name)

/-- The statement for the fields; an unknown identifier gets that of the default dialect. -/
def draft (fields : List Field) (rules : List TypeRule) (id : String) (options : TableOptions) :
    String :=
  let d := Dialect.resolve id
  render d.conventions (resolveColumns fields rules d) (primaryKey? fields) options

/-- The statements for the identifiers that name a dialect, in the given order. -/
def drafts (fields : List Field) (rules : RuleSet) (ids : List String) (options : TableOptions) :
    List Draft :=
  ids.filterMap fun id =>
    (Dialect.ofId? id).map fun _ =>
      ⟨id, Dialect.labelOf id, draft fields (rules.get id) id options⟩

/-- The statements as text: one alone as it is, several under their labels with a blank line
between. -/
def formatDrafts : List Draft → String
  | [d] => d.ddl
  | ds => String.intercalate "\n\n" (ds.map (fun d => "-- " ++ d.label ++ "\n" ++ d.ddl))

end TableDraft.Ddl
