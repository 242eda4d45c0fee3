/-!
# Quoted literals

A literal is a text between single quotes in which each quote is written twice. `closeLiteral` reads
what follows an opening quote up to the first quote that stands alone.
-/

namespace TableDraft.Ddl

/-- The text with each single quote doubled. -/
def doubleQuotes : List Char → List Char
  | [] => []
  | c :: r => if c == '\'' then '\'' :: '\'' :: doubleQuotes r else c :: doubleQuotes r

/-- The literal of a text. -/
def literal (s : List Char) : List Char := '\'' :: doubleQuotes s ++ ['\'']

/-- The text of a literal after its opening quote, and what follows the closing one; none when no
quote stands alone. -/
def closeLiteral : List Char → Option (List Char × List Char)
  | [] => none
  | ['\''] => some ([], [])
  | '\'' :: d :: r =>
    if d == '\'' then (closeLiteral r).map (fun p => ('\'' :: p.1, p.2)) else some ([], d :: r)
  | c :: r => (closeLiteral r).map (fun p => (c :: p.1, p.2))

end TableDraft.Ddl
