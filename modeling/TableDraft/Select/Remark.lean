/-!
# Remarks in query text

A line remark runs from `--` up to the next line break or the end of the text; a block remark runs
from `/*` through the next `*/`. `strip` takes both kinds out of a text, line remarks first; a block
that is never closed stays. `codeOf` is the other reading of the same text, in one pass from left to
right, where whichever mark comes first decides what follows.
-/

namespace TableDraft.Select.Remark

/-- The text without its line remarks. In a remark nothing is kept until the line ends. -/
def dropLines (inRemark : Bool) : List Char → List Char
  | [] => []
  | c :: r =>
    if inRemark then
      if c == '\n' then c :: dropLines false r else dropLines true r
    else if c == '-' && r.head? == some '-' then dropLines true r
    else c :: dropLines false r

/-- A `*/` occurs in the text. -/
def closes : List Char → Bool
  | [] => false
  | c :: r => (c == '*' && r.head? == some '/') || closes r

/-- Where a scan for block remarks stands. -/
inductive BlockState where
  /-- Outside of every block. -/
  | outside
  /-- On the second character of an opening mark. -/
  | opening
  /-- Inside of a block that closes further on. -/
  | inside
  /-- On the second character of a closing mark. -/
  | closing
deriving DecidableEq

/-- The text without its closed block remarks. -/
def dropBlocks : BlockState → List Char → List Char
  | _, [] => []
  | .outside, c :: r =>
    if c == '/' && r.head? == some '*' && closes r.tail then dropBlocks .opening r
    else c :: dropBlocks .outside r
  | .opening, _ :: r => dropBlocks .inside r
  | .inside, c :: r =>
    if c == '*' && r.head? == some '/' then dropBlocks .closing r else dropBlocks .inside r
  | .closing, _ :: r => dropBlocks .outside r

/-- The text without remarks: line remarks go first, then closed blocks. -/
def strip (s : List Char) : List Char := dropBlocks .outside (dropLines false s)

/-! ## One pass -/

/-- Where a scan that knows both kinds of remark stands. -/
inductive State where
  /-- In code. -/
  | code
  /-- In a line remark. -/
  | line
  /-- On the second character of an opening mark. -/
  | opening
  /-- In a block remark. -/
  | block
  /-- On the second character of a closing mark. -/
  | closing
deriving DecidableEq

/-- The state on the next character, when the scan stands in a state on a character with the given
rest of the text after it; and whether the character is code. -/
def State.step : State → Char → List Char → Bool × State
  | .code, c, r =>
    if c == '-' && r.head? == some '-' then (false, .line)
    else if c == '/' && r.head? == some '*' then (false, .opening)
    else (true, .code)
  | .line, c, _ => if c == '\n' then (true, .code) else (false, .line)
  | .opening, _, _ => (false, .block)
  | .block, c, r => (false, if c == '*' && r.head? == some '/' then .closing else .block)
  | .closing, _, _ => (false, .code)

/-- The characters of a text that are code. -/
def codeOf : State → List Char → List Char
  | _, [] => []
  | st, c :: r =>
    let (isCode, next) := st.step c r
    if isCode then c :: codeOf next r else codeOf next r

end TableDraft.Select.Remark
