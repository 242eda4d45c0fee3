import TableDraft.Ddl.Literal
import TableDraft.Dialect
import TableDraft.Text.Blank

/-!
# The layout of a statement

A statement is laid out line by line. Column names are padded to the longest one, and types to a
fixed width where a comment follows. Comments stand on the lines of their columns, or in statements
after the table's own, as the conventions say.
-/

namespace TableDraft.Ddl

open Text

/-- A column with its type in a dialect. -/
structure Column where
  name : String
  dataType : String
  comment : String
deriving DecidableEq, Repr

/-- What is said about the table as a whole. -/
structure TableOptions where
  tableName : String
  tableComment : String
deriving DecidableEq, Repr

namespace TableOptions

/-- The name of a table for which none is given. -/
def defaultName : String := "表名"

/-- The options where none are given. -/
def default : TableOptions := ⟨defaultName, ""⟩

end TableOptions

/-- The width of the types where comments follow them. -/
def typeWidth : Nat := 18

/-- The width of the names where there are none. -/
def emptyNameWidth : Nat := 30

/-- The engine clause. -/
def engineClause : String := "ENGINE=InnoDB"

/-- The text with spaces after it, up to a width in characters. -/
def pad (width : Nat) (s : List Char) : List Char :=
  s ++ List.replicate (width - s.length) ' '

/-- The width of the names. -/
def nameWidth (columns : List Column) : Nat :=
  ((columns.map (·.name.toList.length)).max?).getD emptyNameWidth

/-- What stands before the name of the first column and of the others. -/
def lead (first : Bool) : List Char := if first then "    ".toList else "   ,".toList

/-- The line of a column. -/
def columnLine (style : CommentStyle) (width : Nat) (first : Bool) (c : Column) : List Char :=
  let named := lead first ++ pad width c.name.toList ++ [' ']
  trimEnd <| match style with
    | .separate => named ++ c.dataType.toList
    | .inline =>
      named ++ pad typeWidth c.dataType.toList ++ " COMMENT ".toList ++ literal c.comment.toList

/-- The lines of the columns. -/
def columnLines (style : CommentStyle) (columns : List Column) : List (List Char) :=
  match columns with
  | [] => []
  | c :: r =>
    let width := nameWidth columns
    columnLine style width true c :: r.map (columnLine style width false)

/-- The line that names the primary key, where the conventions ask for one and there is one. -/
def keyLines (conv : Conventions) (primaryKey : Option String) : List (List Char) :=
  if conv.addPrimaryKey then
    (primaryKey.map (fun k => "   ,PRIMARY KEY (".toList ++ k.toList ++ [')'])).toList
  else []

/-- The line of the statement that comments on a column. -/
def columnCommentLine (table : String) (c : Column) : List Char :=
  "COMMENT ON COLUMN ".toList ++ table.toList ++ '.' :: c.name.toList ++ " IS ".toList ++
    literal c.comment.toList ++ [';']

/-- The lines after the column list. -/
def closingLines (conv : Conventions) (columns : List Column) (options : TableOptions) :
    List (List Char) :=
  let tableComment := literal options.tableComment.toList
  match conv.commentStyle with
  | .separate =>
    [");".toList, [],
      "COMMENT ON TABLE ".toList ++ options.tableName.toList ++ " IS ".toList ++ tableComment ++ [';']] ++
    columns.map (columnCommentLine options.tableName)
  | .inline =>
    [[')']] ++ (if conv.addEngineClause then [' ' :: engineClause.toList] else []) ++
    [" COMMENT ".toList ++ tableComment]

/-- The lines of a statement. -/
def lines (conv : Conventions) (columns : List Column) (primaryKey : Option String)
    (options : TableOptions) : List (List Char) :=
  [conv.opening.toList ++ ' ' :: options.tableName.toList ++ " (".toList] ++
  columnLines conv.commentStyle columns ++ keyLines conv primaryKey ++
  closingLines conv columns options

/-- The statement as text. -/
def render (conv : Conventions) (columns : List Column) (primaryKey : Option String)
    (options : TableOptions) : String :=
  String.ofList ((lines conv columns primaryKey options).intersperse ['\n']).flatten

end TableDraft.Ddl
