import TableDraft.Select.RemarkTable
import TableDraft.Text.Search

/-!
# Fields

A field is one output column of a query: the name to show, the alias that the name came from if
there was one, and a comment. `Field.ofExpression?` reads it from one expression of a select list.
An alias is explicit (`… AS total`) or is the last word of an expression whose word before it does
not look like part of a computation. A nested query is no field.
-/

namespace TableDraft.Select

open Text

/-- An output column of a query. -/
structure Field where
  /-- The alias if there is one, and else the text of the expression. -/
  name : String
  /-- The alias without its quotes. -/
  alias? : Option String
  /-- What the field means; its name where nothing else is known. -/
  comment : String
deriving DecidableEq, Repr

/-! ## Aliases -/

/-- The characters that may enclose an alias. -/
def isQuote (c : Char) : Bool := c == '"' || c == '\'' || c == '\x60'

/-- The text without the quote characters at its ends, paired or not. -/
def unquote (s : List Char) : List Char :=
  ((s.dropWhile isQuote).reverse.dropWhile isQuote).reverse

/-- A parenthesis of either kind. -/
def isParen (c : Char) : Bool := c == '(' || c == ')'

/-- A character that makes a word part of a computation. -/
def isOperatorMark (c : Char) : Bool :=
  c == '(' || c == '+' || c == '-' || c == '*' || c == '/' || c == '='

/-- Enclosed in two quotes of one kind that do not occur in between. -/
def isQuoted : List Char → Bool
  | [] => false
  | q :: r => isQuote q && r.getLast? == some q && !r.dropLast.contains q

/-- What may stand after AS: a quoted text, or one word without a comma. -/
def isAliasToken (s : List Char) : Bool :=
  isQuoted s || (!s.isEmpty && s.all (fun c => !isBlank c && c != ','))

/-- The alias token, when the whole text is blanks, AS, blanks and the token. -/
def aliasTokenAt (s : List Char) : Option (List Char) :=
  (((dropBlanks s).bind (dropKeyword "as".toList)).bind dropBlanks).filter isAliasToken

/-- The text before the first place from which the rest is AS and an alias token, and that token. -/
def cutExplicitAlias : List Char → Option (List Char × List Char)
  | [] => none
  | c :: r => match aliasTokenAt (c :: r) with
    | some token => some ([], token)
    | none => (cutExplicitAlias r).map (fun p => (c :: p.1, p.2))

/-- The name and the alias after AS. The target of a cast (`AS INT)`) is no alias. -/
def explicitAlias (expr : List Char) : Option (List Char × List Char) :=
  match cutExplicitAlias expr with
  | none => none
  | some (before, token) =>
    if token.any isParen || (unquote token).isEmpty || (trim before).isEmpty then none
    else some (trim before, unquote token)

/-- The name and the alias when the last word is one: the words before it, and the word unquoted. -/
def implicitAlias (expr : List Char) : Option (List Char × List Char) :=
  match (words expr).reverse with
  | last :: before :: front =>
    if before.any isOperatorMark || last.any isParen || (unquote last).isEmpty then none
    else some (((before :: front).reverse.intersperse [' ']).flatten, unquote last)
  | _ => none

/-- The name of an expression and its alias. -/
def splitAlias (expr : List Char) : List Char × Option (List Char) :=
  match explicitAlias expr with
  | some (name, a) => (name, some a)
  | none => match implicitAlias expr with
    | some (name, a) => (name, some a)
    | none => (expr, none)

/-! ## Expressions -/

/-- FROM between blanks. -/
def holdsFrom : List Char → Bool
  | [] => false
  | c :: r =>
    (isBlank c && ((dropKeyword "from".toList r).bind dropBlanks).isSome) || holdsFrom r

/-- The text looks like a nested query. -/
def looksNested (s : List Char) : Bool := holdsWord "select".toList s || holdsFrom s

/-- The text without a leading DISTINCT and the blanks after it. -/
def dropDistinct (s : List Char) : List Char :=
  ((dropKeyword "distinct".toList s).bind dropBlanks).getD s

namespace Field

/-- A field without alias, whose comment is its name. -/
def ofName (name : String) : Field := ⟨name, none, name⟩

/-- The field with another comment. -/
def withComment (f : Field) (comment : String) : Field := { f with comment }

/-- The remark on an expression: under its whole text, under the name before the alias, or under the
alias. -/
def remarkOn? (remarks : RemarkTable) (source name : List Char) (alias? : Option (List Char)) :
    Option String :=
  ((remarks.get? source).or (remarks.get? name)).or (alias?.bind remarks.get?)

/-- Reads one expression of a select list; none when it is blank or looks like a nested query. -/
def ofExpression? (remarks : Option RemarkTable) (expr : List Char) : Option Field :=
  let source := trim expr
  if source.isEmpty || looksNested source then none
  else
    let (name, alias?) := splitAlias (trim (dropDistinct source))
    if name.isEmpty then none
    else
      let shown := String.ofList (alias?.getD name)
      let comment := (remarks.bind (fun t => remarkOn? t source name alias?)).getD shown
      some ⟨shown, alias?.map String.ofList, comment⟩

end Field

end TableDraft.Select
