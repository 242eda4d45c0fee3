import TableDraft.Command.Run
import TableDraft.Pattern.Engine

/-!
# The program

Runs the command on the files of the system.
-/

open TableDraft TableDraft.Command TableDraft.Output

/-- The fault that a system error stands for. -/
def faultOfError : IO.Error → FileFault
  | .noFileOrDirectory .. => .notFound
  | .alreadyExists .. => .exists
  | .inappropriateType .. => .notDirectory
  | .permissionDenied .. => .denied
  | e => .other (toString e)

/-- Runs an action and keeps its error as a fault. -/
def guarded {α : Type} (action : IO α) : IO (Except FileFault α) := do
  match ← action.toBaseIO with
  | .ok a => return .ok a
  | .error e => return .error (faultOfError e)

/-- The text that some bytes write. -/
def textOfBytes (bytes : ByteArray) : Except FileFault String :=
  match String.fromUTF8? bytes with
  | some s => .ok s
  | none => .error .notText

/-- All of the standard input. -/
partial def readAll (input : IO.FS.Stream) (bytes : ByteArray) : IO ByteArray := do
  let more ← input.read 65536
  if more.isEmpty then return bytes else readAll input (bytes ++ more)

/-- The files and the standard input of the system. -/
def systemHost : Host IO where
  readText path := do
    match ← guarded (IO.FS.readBinFile path) with
    | .ok bytes => return textOfBytes bytes
    | .error f => return .error f
  readInput := do
    match ← guarded (do readAll (← IO.getStdin) ByteArray.empty) with
    | .ok bytes => return textOfBytes bytes
    | .error f => return .error f
  makeDirs path := guarded (IO.FS.createDirAll path)
  writeText path text := guarded (IO.FS.writeFile path text)

/-- How the command is called. -/
def usage : String :=
  "Usage: tabledraft [OPTIONS] [INPUT]...\n\n" ++
  "Options: -d/--dialect ID, --rules FILE, --request FILE, --table-name NAME, --table-comment TEXT, " ++
  "--output-dir DIR, --json, --check, --verbose, --help"

def main (args : List String) : IO UInt32 := do
  match parse args with
  | .usageError =>
    IO.eprintln usage
    return 2
  | .help =>
    IO.println usage
    return 0
  | .options o =>
    let outcome ← run systemHost o
    IO.print outcome.output
    for c in outcome.complaints do
      IO.eprintln c.message
    return UInt32.ofNat outcome.code
