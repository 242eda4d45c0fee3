import TableDraft.Ddl.Token
import TableDraft.Error

/-!
# The grammar of statements

A check of drafted text: whether it is a row of statements, with semicolons between, that create a
table or comment on one. `statementCount` gives their number. The grammar has the statements that
drafts are made of, with the usual column constraints and table options; it is meant as advice, not
as the grammar of a product.
-/

namespace TableDraft.Ddl

namespace Grammar

/-- A reader of tokens: what it leaves, or nothing when the tokens do not fit. -/
abbrev Reader := List Token → Option (List Token)

/-- A keyword, in any letter case. -/
def keyword (k : String) : Reader
  | .word s :: r => if s.map Char.toUpper == k.toList then some r else none
  | _ => none

/-- Some keywords in a row. -/
def keywords (ks : List String) : Reader := fun ts => ks.foldlM (fun ts k => keyword k ts) ts

/-- A symbol. -/
def symbol (c : Char) : Reader
  | .symbol d :: r => if c == d then some r else none
  | _ => none

/-- One of two readers. -/
def either (a b : Reader) : Reader := fun ts => (a ts).or (b ts)

/-- A reader or nothing. -/
def optionally (a : Reader) : Reader := fun ts => some ((a ts).getD ts)

/-- One reader and then another. -/
def andThen (a b : Reader) : Reader := fun ts => (a ts).bind b

/-- A name. -/
def name : Reader
  | .word _ :: r | .quoted _ :: r | .string _ :: r => some r
  | _ => none

/-- A string. -/
def string : Reader
  | .string _ :: r => some r
  | _ => none

/-- A number. -/
def number : Reader
  | .number _ :: r => some r
  | _ => none

/-- A reader and, each after a separator, more of the same. The count bounds how many. -/
def separated (a : Reader) (separator : Char) : Nat → Reader
  | 0, _ => none
  | n + 1, ts =>
    match a ts with
    | none => none
    | some rest =>
      match symbol separator rest with
      | none => some rest
      | some rest => separated a separator n rest

/-- As many of a reader as there are. -/
def many (a : Reader) : Nat → Reader
  | 0, ts => some ts
  | n + 1, ts =>
    match a ts with
    | none => some ts
    | some rest => many a n rest

/-- A name with its parts before points. -/
def qualifiedName : Reader := fun ts => separated name '.' ts.length ts

/-- A reader between parentheses. -/
def inParens (a : Reader) : Reader := andThen (symbol '(') (andThen a (symbol ')'))

/-! ## Columns -/

/-- The types that take no parameters. -/
def bareTypes : List String :=
  ["DATE", "TEXT", "REAL", "BOOLEAN", "BOOL", "UUID", "JSON", "JSONB", "FLOAT32", "FLOAT64"]

/-- The types whose parameters are numbers. -/
def numericTypes : List String :=
  ["DECIMAL", "NUMERIC", "DEC", "VARCHAR", "CHAR", "CHARACTER", "FLOAT", "DOUBLE", "STRING",
   "TIMESTAMP", "DATETIME", "TIME", "INT", "INTEGER", "BIGINT", "SMALLINT", "TINYINT", "FIXEDSTRING",
   "VARBINARY", "BINARY", "NVARCHAR"]

/-- A parameter of a type without a rule of its own. -/
def modifier : Reader := fun ts =>
  match ts with
  | .word _ :: r | .number _ :: r | .string _ :: r => some r
  | _ => none

/-- A type of a column. -/
def type : Reader
  | .word s :: r =>
    let upper := String.ofList (s.map Char.toUpper)
    if bareTypes.contains upper then some r
    else if upper == "DOUBLE" && (keyword "PRECISION" r).isSome then keyword "PRECISION" r
    else if numericTypes.contains upper then
      match symbol '(' r with
      | none => some r
      | some rest => andThen (fun ts => separated number ',' ts.length ts) (symbol ')') rest
    else
      match qualifiedName (.word s :: r) with
      | none => none
      | some r =>
        match symbol '(' r with
        | none => some r
        | some rest =>
          match symbol ')' rest with
          | some rest => some rest
          | none => andThen (fun ts => separated modifier ',' ts.length ts) (symbol ')') rest
  | .quoted s :: r => qualifiedName (.quoted s :: r)
  | _ => none

/-- A value that a column may have by default. -/
def value : Reader
  | .word _ :: r | .number _ :: r | .string _ :: r => some r
  | _ => none

/-- A constraint of a column, or its comment. -/
def columnOption : Reader :=
  either (andThen (keyword "COMMENT") string) <|
  either (keywords ["NOT", "NULL"]) <|
  either (keyword "NULL") <|
  either (andThen (keyword "DEFAULT") value) <|
  either (keywords ["PRIMARY", "KEY"]) <|
  either (keyword "UNIQUE") (keyword "AUTO_INCREMENT")

/-- Names between parentheses. -/
def nameList : Reader := inParens (fun ts => separated name ',' ts.length ts)

/-- A column or a constraint of the table. -/
def element : Reader := fun ts =>
  match ts with
  | .word s :: r =>
    match String.ofList (s.map Char.toUpper) with
    | "PRIMARY" => andThen (keyword "KEY") nameList r
    | "CONSTRAINT" => andThen name (andThen (keywords ["PRIMARY", "KEY"]) nameList) r
    | "UNIQUE" =>
      andThen (optionally (either (keyword "KEY") (keyword "INDEX"))) (andThen (optionally name) nameList) r
    | "FOREIGN" | "CHECK" => none
    | _ => andThen type (fun ts => many columnOption ts.length ts) r
  | .quoted _ :: r => andThen type (fun ts => many columnOption ts.length ts) r
  | _ => none

/-- The columns of a table between parentheses; there may be none. -/
def columnList : Reader := fun ts =>
  match symbol '(' ts with
  | none => some ts
  | some rest =>
    match symbol ')' rest with
    | some rest => some rest
    | none => andThen (fun ts => separated element ',' ts.length ts) (symbol ')') rest

/-- An option of a table. -/
def tableOption : Reader :=
  either (andThen (keyword "COMMENT") (andThen (optionally (symbol '=')) string))
    (andThen (keyword "ENGINE") (andThen (optionally (symbol '=')) value))

/-! ## Statements -/

/-- A statement that creates a table. -/
def createTable : Reader :=
  andThen (keyword "CREATE") <|
  andThen (optionally (keywords ["OR", "REPLACE"])) <|
  andThen (optionally (either (keyword "TEMPORARY") (keyword "EXTERNAL"))) <|
  andThen (keyword "TABLE") <|
  andThen (optionally (keywords ["IF", "NOT", "EXISTS"])) <|
  andThen qualifiedName <|
  andThen columnList (fun ts => many tableOption ts.length ts)

/-- A statement that comments on a table or a column, where a dialect has it. -/
def commentOn (d : Dialect) : Reader :=
  if d = .postgreSql then
    andThen (keywords ["COMMENT", "ON"]) <|
    andThen (either (keyword "TABLE") (keyword "COLUMN")) <|
    andThen qualifiedName <|
    andThen (keyword "IS") (either string (keyword "NULL"))
  else fun _ => none

/-- The number of statements, with semicolons between; none when something else stands there. -/
def statements (d : Dialect) : Nat → List Token → Option Nat
  | 0, _ => none
  | n + 1, ts =>
    match ts with
    | [] => some 0
    | .symbol ';' :: r => statements d n r
    | ts =>
      match either createTable (commentOn d) ts with
      | none => none
      | some [] => some 1
      | some (.symbol ';' :: r) => (statements d n r).map (· + 1)
      | some _ => none

end Grammar

/-- The number of statements in a text, or the refusal of the dialect. -/
def statementCount (d : Dialect) (text : String) : Except DraftError Nat :=
  let count := (Token.ofText? d text.toList).bind (fun ts => Grammar.statements d (ts.length + 1) ts)
  match count with
  | some n => .ok n
  | none => .error (.refused d.id "the text is not a row of statements")

end TableDraft.Ddl
