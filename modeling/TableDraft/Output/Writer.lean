import TableDraft.Ddl.Draft
import TableDraft.Error
import TableDraft.Output.Host

/-!
# Writing statements to files

Each statement goes to a file of its own, `name_dialect.sql` in one directory. The name is a plain
one, so that the path of each file is that of the directory and one step more. Writing stops at the
first statement that cannot be written.
-/

namespace TableDraft.Output

open Ddl

/-- Refuses a name that is blank or is not a single plain part of a path. -/
def checkName (name : String) : Except DraftError Unit :=
  let invalid (why : String) : Except DraftError Unit :=
    .error (.output ("Invalid output name '" ++ name ++ "': " ++ why))
  if Text.isBlankText name.toList then .error (.output "Output name must not be empty")
  else if FileTree.isAbsolute name then invalid "absolute paths are not allowed"
  else if (name.toList.splitOn '/').contains "..".toList then
    invalid "traversal segments are not allowed"
  else if name.toList.contains '/' || name.toList.contains '\\' then
    invalid "path separators are not allowed"
  else .ok ()

/-- The path of a file in a directory. -/
def join (dir file : String) : String :=
  if dir.isEmpty || dir.toList.getLast? == some '/' then dir ++ file else dir ++ "/" ++ file

/-- The name of the file for a statement. -/
def fileName (name : String) (d : Draft) : String :=
  name ++ "_" ++ Text.lowered (Text.trimmed d.databaseType) ++ ".sql"

variable {m : Type → Type} [Monad m]

/-- Writes the statements one after the other. -/
def writeEach (host : Host m) (dir name : String) : List Draft → m (Except DraftError Unit)
  | [] => pure (.ok ())
  | d :: rest => do
    let path := join dir (fileName name d)
    match ← host.writeText path (d.ddl ++ "\n") with
    | .error f => pure (.error (.output ("Failed to write " ++ path ++ ": " ++ f.message)))
    | .ok () => writeEach host dir name rest

/-- Writes the statements into a directory, which is made if it is not there. -/
def writeDrafts (host : Host m) (dir name : String) (drafts : List Draft) :
    m (Except DraftError Unit) :=
  match checkName name with
  | .error e => pure (.error e)
  | .ok () => do
    match ← host.makeDirs dir with
    | .error f => pure (.error (.output ("Failed to create output directory: " ++ f.message)))
    | .ok () => writeEach host dir name drafts

end TableDraft.Output
