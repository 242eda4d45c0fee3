/-!
# What can go wrong

The causes for which no statement is drafted, checked or written, each with its wording. An input
error is one that other query text can mend.
-/

namespace TableDraft

/-- Why a draft failed. -/
inductive DraftError where
  /-- The text holds nothing that could be a select list. -/
  | unparsableSql
  /-- There were candidates for fields, and none is a field. -/
  | noFieldsRecognized
  /-- The select list, given trimmed, does not balance its parentheses. -/
  | unbalancedParentheses (clause : String)
  /-- There is no query text. -/
  | emptySql
  /-- A rules document cannot be read. -/
  | invalidRules (reason : String)
  /-- A request document cannot be read. -/
  | invalidRequest (reason : String)
  /-- The drafted statements cannot be written. -/
  | output (reason : String)
  /-- The grammar of a dialect refuses the drafted text. -/
  | refused (dialect : String) (reason : String)
deriving DecidableEq, Repr

namespace DraftError

/-- The wording of an error. -/
def message : DraftError → String
  | unparsableSql => "Unable to parse SQL: no SELECT clause or field list found"
  | noFieldsRecognized => "No fields recognized in SQL"
  | unbalancedParentheses clause => "Unbalanced parentheses in field list: " ++ clause
  | emptySql => "SQL input must not be empty"
  | invalidRules reason => "Invalid rules JSON: " ++ reason
  | invalidRequest reason => "Invalid request JSON: " ++ reason
  | output reason => reason
  | refused dialect reason => dialect ++ " DDL failed syntax check: " ++ reason

/-- The query text itself is at fault. -/
def isInputError : DraftError → Bool
  | unparsableSql | noFieldsRecognized | unbalancedParentheses _ | emptySql => true
  | invalidRules _ | invalidRequest _ | output _ | refused _ _ => false

end DraftError

end TableDraft
