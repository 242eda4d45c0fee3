import TableDraft.Output.FileTree

/-!
# Where texts are read and written

A `Host` gives a program its files and its standard input, in some monad.
-/

namespace TableDraft.Output

/-- Reading and writing of texts. -/
structure Host (m : Type → Type) where
  /-- The text of a file. -/
  readText : String → m (Except FileFault String)
  /-- All of the standard input. -/
  readInput : m (Except FileFault String)
  /-- Makes a directory and all above it. -/
  makeDirs : String → m (Except FileFault Unit)
  /-- Writes the text of a file. -/
  writeText : String → String → m (Except FileFault Unit)

end TableDraft.Output
