import TableDraft.Text.LetterCase

/-!
# What a name tells

Names are compared trimmed and in lower case. Two endings mark a column that identifies its row:
`icode` for an identifier code, and `id` for any other identifier; no name has both.
-/

namespace TableDraft.Naming

open Text

/-- The name as it is compared: trimmed, in lower case. -/
def normalize (name : String) : String := String.ofList (lower (trim name.toList))

/-- The name ends as an identifier code does. -/
def isIdentifierCode (name : String) : Bool :=
  "icode".toList.isSuffixOf (normalize name).toList

/-- The name ends as an identifier does, and is not that of an identifier code. -/
def isGenericId (name : String) : Bool :=
  "id".toList.isSuffixOf (normalize name).toList && !isIdentifierCode name

theorem isGenericId_of_isIdentifierCode {name : String} (h : isIdentifierCode name = true) :
    isGenericId name = false := by
  simp [isGenericId, h]

end TableDraft.Naming
