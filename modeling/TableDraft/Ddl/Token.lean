import TableDraft.Dialect
import TableDraft.Unicode.Property

/-!
# Tokens of statements

Cuts the text of statements into words, numbers, quoted strings and symbols, by the rules of a
dialect: which characters a name may hold, which quotes enclose a name, and whether a backslash
escapes a quote. Remarks and blanks separate tokens. A text has no tokens when a quote or a block
remark is not closed.
-/

namespace TableDraft.Ddl

open Unicode

/-- A token. -/
inductive Token where
  /-- A name or a keyword as it is written. -/
  | word (s : List Char)
  /-- A name between quotes. -/
  | quoted (s : List Char)
  | number (s : List Char)
  | string (s : List Char)
  | symbol (c : Char)
deriving DecidableEq, Repr

namespace Token

/-- The character may start a name. -/
def isNameStart (d : Dialect) (c : Char) : Bool :=
  match d with
  | .spark | .clickHouse => c.isAlpha || c == '_'
  | .hive => c.isAlphanum || c == '$'
  | .mySql | .starRocks | .doris => c.isAlpha || c == '_' || c == '$' || c == '@' || !isAscii c
  | .postgreSql => c.isAlpha || c == '_' || !isAscii c

/-- The character may stand in a name. -/
def isNamePart (d : Dialect) (c : Char) : Bool :=
  isNameStart d c || c.isDigit ||
  match d with
  | .hive => c == '_' || c == '{' || c == '\x7d'
  | .postgreSql => c == '$'
  | _ => false

/-- The character encloses names. -/
def isNameQuote (d : Dialect) (c : Char) : Bool :=
  c == '\x60' ||
  match d with
  | .postgreSql | .clickHouse | .hive => c == '"'
  | _ => false

/-- The character encloses strings. -/
def isStringQuote (d : Dialect) (c : Char) : Bool :=
  c == '\'' || (c == '"' && !isNameQuote d c)

/-- A backslash in a string takes the meaning of the character after it. -/
def escapesByBackslash (d : Dialect) : Bool :=
  match d with
  | .mySql | .starRocks | .doris | .clickHouse => true
  | _ => false

/-- A number sign starts a line remark. -/
def hasNumberSignRemarks (d : Dialect) : Bool :=
  match d with
  | .mySql | .starRocks | .doris | .hive => true
  | _ => false

/-- The text up to a quote that stands alone, and the rest after it. -/
def closeQuote (q : Char) (escapes : Bool) : List Char → Option (List Char × List Char)
  | [] => none
  | [c] => if c == q then some ([], []) else none
  | c :: d :: r =>
    if c == q then
      if d == q then (closeQuote q escapes r).map (fun p => (q :: p.1, p.2)) else some ([], d :: r)
    else if escapes && c == '\\' then (closeQuote q escapes r).map (fun p => (d :: p.1, p.2))
    else (closeQuote q escapes (d :: r)).map (fun p => (c :: p.1, p.2))

/-- The text after the end of a block remark. -/
def closeBlock : List Char → Option (List Char)
  | [] => none
  | c :: r => if c == '*' && r.head? == some '/' then some r.tail else closeBlock r

/-- The tokens of a text; the count bounds how many there are. -/
def scan (d : Dialect) : Nat → List Char → Option (List Token)
  | 0, _ => none
  | _ + 1, [] => some []
  | n + 1, c :: r =>
    if c == ' ' || c == '\t' || c == '\n' || c == '\r' then scan d n r
    else if (c == '-' && r.head? == some '-') || (c == '#' && hasNumberSignRemarks d) then
      scan d n (r.dropWhile (· != '\n'))
    else if c == '/' && r.head? == some '*' then
      (closeBlock r.tail).bind (scan d n)
    else if isNameQuote d c then do
      let (s, rest) ← closeQuote c false r
      (scan d n rest).map (quoted s :: ·)
    else if isStringQuote d c then do
      let (s, rest) ← closeQuote c (escapesByBackslash d) r
      (scan d n rest).map (string s :: ·)
    else if c.isDigit && !isNameStart d c then
      let s := c :: r.takeWhile Char.isDigit
      (scan d n (r.dropWhile Char.isDigit)).map (number s :: ·)
    else if isNameStart d c then
      let s := c :: r.takeWhile (isNamePart d)
      let token := if s.all Char.isDigit then number s else word s
      (scan d n (r.dropWhile (isNamePart d))).map (token :: ·)
    else (scan d n r).map (symbol c :: ·)

/-- The tokens of a text. -/
def ofText? (d : Dialect) (s : List Char) : Option (List Token) := scan d (s.length + 1) s

end Token

end TableDraft.Ddl
