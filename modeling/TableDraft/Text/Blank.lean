/-!
# Blanks, trimming and words

Text is a list of characters. This module has the blank characters, the text without blanks at its
ends, and the words between blanks; no word is empty (`ne_nil_of_mem_words`).
-/

namespace TableDraft.Text

/-- The characters with the Unicode property White_Space. -/
def isBlank (c : Char) : Bool :=
  let n := c.toNat
  (9 ≤ n && n ≤ 13) || n == 32 || n == 0x85 || n == 0xA0 || n == 0x1680 ||
  (0x2000 ≤ n && n ≤ 0x200A) || n == 0x2028 || n == 0x2029 || n == 0x202F || n == 0x205F ||
  n == 0x3000

/-- Nothing but blanks. -/
def isBlankText (s : List Char) : Bool := s.all isBlank

/-- The text from its first character that is no blank. -/
def trimStart (s : List Char) : List Char := s.dropWhile isBlank

/-- The text up to its last character that is no blank. -/
def trimEnd (s : List Char) : List Char := (s.reverse.dropWhile isBlank).reverse

/-- The text without the blanks at its ends. -/
def trim (s : List Char) : List Char := trimEnd (trimStart s)

/-- A string without the blanks at its ends. -/
def trimmed (s : String) : String := String.ofList (trim s.toList)

/-- The maximal runs of characters that are no blanks. -/
def words (s : List Char) : List (List Char) :=
  (s.splitOnP isBlank).filter (fun w => !w.isEmpty)

/-- The text's words with one space between. -/
def unspaced (s : List Char) : List Char := (words s).intersperse [' '] |>.flatten

theorem ne_nil_of_mem_words {s w : List Char} (h : w ∈ words s) : w ≠ [] := by
  have := (List.mem_filter.mp h).2
  intro he
  simp [he] at this

end TableDraft.Text
