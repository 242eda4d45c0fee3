import TableDraft.Text.LetterCase

/-!
# Dialects

The dialects that statements are drafted for: their identifiers and labels, and the conventions that
shape a statement. An identifier is read without regard to letter case and blanks at its ends;
`ofId?_id` says that each dialect answers to its own.
-/

namespace TableDraft

open Text

/-- A dialect. -/
inductive Dialect where
  | spark
  | mySql
  | postgreSql
  | starRocks
  | clickHouse
  | hive
  | doris
deriving DecidableEq, Repr

/-- Where the comments on columns stand. -/
inductive CommentStyle where
  /-- On the line of the column, and after the column list for the table. -/
  | inline
  /-- In statements of their own. -/
  | separate
deriving DecidableEq, Repr

/-- What shapes the statements of a dialect. -/
structure Conventions where
  /-- The words before the table name. -/
  opening : String
  commentStyle : CommentStyle
  /-- The column list names a primary key. -/
  addPrimaryKey : Bool
  /-- An engine clause follows the column list. -/
  addEngineClause : Bool
deriving DecidableEq, Repr

namespace Dialect

/-- Every dialect, in the order in which they are shown. -/
def all : List Dialect := [spark, mySql, postgreSql, starRocks, clickHouse, hive, doris]

/-- The dialect for unknown identifiers and for requests that name none. -/
def default : Dialect := spark

/-- The identifier of a dialect. -/
def id : Dialect → String
  | spark => "spark"
  | mySql => "mysql"
  | postgreSql => "postgresql"
  | starRocks => "starrocks"
  | clickHouse => "clickhouse"
  | hive => "hive"
  | doris => "doris"

/-- The name of the product. -/
def label : Dialect → String
  | spark => "Spark SQL"
  | mySql => "MySQL"
  | postgreSql => "PostgreSQL"
  | starRocks => "StarRocks"
  | clickHouse => "ClickHouse"
  | hive => "Hive"
  | doris => "Doris"

/-- The conventions of a dialect. -/
def conventions : Dialect → Conventions
  | mySql => ⟨"CREATE TABLE IF NOT EXISTS", .inline, true, true⟩
  | postgreSql => ⟨"CREATE TABLE", .separate, false, false⟩
  | spark | starRocks | clickHouse | hive | doris =>
    ⟨"CREATE TABLE IF NOT EXISTS", .inline, false, false⟩

/-- The dialect with a normal identifier; PostgreSQL has a short one too. -/
def ofNormalId? (id : String) : Option Dialect :=
  if id = "postgres" then some postgreSql else all.find? (fun d => d.id == id)

/-- The dialect that an identifier names. -/
def ofId? (id : String) : Option Dialect :=
  ofNormalId? (String.ofList (lower (trim id.toList)))

/-- The dialect that an identifier names, or the default one. -/
def resolve (id : String) : Dialect := (ofId? id).getD default

/-- The dialect that an identifier names, or what is wrong with it. -/
def parse (id : String) : Except String Dialect :=
  match ofId? id with
  | some d => .ok d
  | none => .error ("Unknown dialect: " ++ id)

/-- The label for an identifier; an unknown one is shown trimmed and in upper case. -/
def labelOf (id : String) : String :=
  match ofId? id with
  | some d => d.label
  | none => String.ofList (upper (trim id.toList))

/-- Each dialect answers to its own identifier. -/
theorem ofId?_id (d : Dialect) : ofId? d.id = some d := by
  cases d <;> decide

end Dialect

end TableDraft
