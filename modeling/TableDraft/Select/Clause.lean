import TableDraft.Select.Pieces
import TableDraft.Select.Remark
import TableDraft.Text.Search

/-!
# The select list of a query

Where the list of a query starts and ends. It starts after the first word SELECT. It ends at the
first FROM that is code, stands outside of parentheses and has blanks around it; or, for a query
without one, before the first keyword of a later clause.
-/

namespace TableDraft.Select

open Text

/-- FROM starts the text and a blank or the end follows it. -/
def startsFrom (s : List Char) : Bool :=
  match dropKeyword "from".toList s with
  | some (c :: _) => isBlank c
  | some [] => true
  | none => false

/-- The text before the first FROM that is code at depth zero, follows a blank, and is followed by a
blank or the end. The scan stands in a state, at a depth, after a blank or not. -/
def beforeFrom (st : Remark.State) (depth : Int) (afterBlank : Bool) :
    List Char → Option (List Char)
  | [] => none
  | c :: r =>
    let (isCode, next) := st.step c r
    if isCode && depth == 0 && afterBlank && startsFrom (c :: r) then some []
    else (beforeFrom next (if isCode then depth + depthStep c else depth) (isBlank c) r).map (c :: ·)

/-- What follows the first word SELECT. -/
def afterSelect (sql : List Char) : Option (List Char) := afterWord "select".toList false sql

/-- The trimmed text between the first SELECT and its FROM. -/
def selectFromClause (sql : List Char) : Option (List Char) :=
  ((afterSelect sql).bind (beforeFrom .code 0 false)).map trim

/-- A word made of two keywords with blanks between. -/
def startsTwoWords (first second : List Char) (s : List Char) : Bool :=
  match ((dropKeyword first s).bind dropBlanks).bind (dropKeyword second) with
  | some r => !startsInWord r
  | none => false

/-- A keyword of a clause after the select list starts the text. -/
def startsClause (inWord : Bool) (s : List Char) : Bool :=
  !inWord &&
  (["where", "having", "limit", "union"].any (fun k => (dropWord k.toList false s).isSome) ||
    startsTwoWords "group".toList "by".toList s || startsTwoWords "order".toList "by".toList s)

/-- The text before the first keyword of a later clause. -/
def beforeClause (inWord : Bool) : List Char → List Char
  | [] => []
  | c :: r =>
    if startsClause inWord (c :: r) then [] else c :: beforeClause (Unicode.isWord c) r

/-- The trimmed text after the first SELECT, up to the next clause. -/
def selectOnlyClause (sql : List Char) : Option (List Char) :=
  (afterSelect sql).map (fun r => trim (beforeClause false r))

end TableDraft.Select
