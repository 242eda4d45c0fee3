import TableDraft.Naming
import TableDraft.Typing.Rule

/-!
# Inferring types

The type of a field is that of the first rule, by priority, that its name or comment meets. Without
one, marks in the name decide, in a fixed order in which the first mark counts: a name can bear
several (`due_date_days` is a number of days, not a date).
-/

namespace TableDraft

open Text

namespace Inference

/-! ## Marks in names -/

/-- Whole names of currency codes. -/
def currencyNames : List String := ["fcytp", "scytp", "cytp", "currency_type"]

/-- The mark of a currency code, in the name or in the comment. -/
def currencyMark : String := "币种代码"

/-- Marks of codes. -/
def codeMarks : List String := ["mode", "code", "icode"]

/-- Marks of days of the calendar. -/
def dateMarks : List String := ["date", "日期"]

/-- Marks of points in time. -/
def timeMarks : List String := ["time", "timestamp", "时间"]

/-- Marks of persons and bodies. -/
def partyMarks : List String := ["org", "trcl", "cust", "stff", "user", "dept"]

/-- Marks of descriptions. -/
def descriptionMarks : List String := ["_name", "_dscr", "_rmrk", "name", "描述", "备注"]

/-- Marks of flags. -/
def flagMarks : List String := ["flag", "标记"]

/-- Marks of amounts of money. -/
def amountMarks : List String :=
  ["amt", "amount", "price", "ocy", "rcy", "scy", "elmn", "crdt", "totl", "ocpt", "金额"]

/-- Marks of quantities. -/
def quantityMarks : List String := ["qty", "quantity", "cnt", "count", "数量"]

/-- The type that the marks in a name and a comment, given in lower case, speak for. -/
def byMarks (name comment : String) : AbstractType :=
  let n := name.toList
  let holds (mark : String) : Bool := contains mark.toList n
  if currencyNames.contains name || holds currencyMark || contains currencyMark.toList comment.toList then
    .string
  else if containsAny codeMarks n then .string
  else if containsAny dateMarks n && !holds "day" then .date
  else if containsAny timeMarks n then .timestamp
  else if containsAny partyMarks n then .string
  else if containsAny descriptionMarks n then .string
  else if containsAny flagMarks n || "is_".toList.isPrefixOf n then .string
  else if holds "days" || (holds "day" && name != "weekday") then .defaultDecimal
  else if containsAny amountMarks n then .defaultDecimal
  else if containsAny quantityMarks n then .defaultDecimal
  else .string

/-! ## Rules -/

variable [PatternEngine]

/-- The rules with their places, lower priorities first and otherwise in the given order. -/
def inOrder (rules : List TypeRule) : List (TypeRule × Nat) :=
  rules.zipIdx.mergeSort (fun a b => a.1.priority ≤ b.1.priority)

/-- The first rule in order that admits the name or the comment, given in lower case, and its
place. -/
def findRule? (name comment : String) (rules : List TypeRule) : Option (TypeRule × Nat) :=
  (inOrder rules).find? (fun r => r.1.admits name comment)

/-- The type of a field with the given name and comment. -/
def infer (name comment : String) (rules : List TypeRule) : AbstractType :=
  let n := Naming.normalize name
  let c := Naming.normalize comment
  match findRule? n c rules with
  | some (rule, _) => rule.type
  | none => byMarks n c

end Inference

end TableDraft
