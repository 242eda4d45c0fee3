import TableDraft.Output.Host

/-!
# A disk

A tree of files that changes call by call. What the system has against a call, such as missing
permissions, comes beside the tree: a call may be refused at any time, also one like those that were
allowed before. A write may break off in the middle, as on a full disk; by then what the file held is
gone.

`hostAt` is the host that lives on such a disk, at one of its directories.
-/

namespace TableDraft.Output

/-- What goes wrong in a call, whatever the tree holds. -/
inductive Trouble where
  /-- The call is refused, before it changes anything. -/
  | refused (f : FileFault)
  /-- A write breaks off after some bytes. -/
  | broken (bytes : Nat) (f : FileFault)
deriving DecidableEq, Repr

/-- How a call with some trouble fails. -/
def Trouble.fault : Trouble → FileFault
  | refused f => f
  | broken _ f => f

/-- What goes wrong in which call. -/
abbrev Troubles := Nat → Option Trouble

/-- A tree, and how many calls were made so far. -/
structure Disk where
  tree : FileTree
  calls : Nat
deriving DecidableEq, Repr

namespace Disk

/-- No files and no calls. -/
def empty : Disk := ⟨.empty, 0⟩

/-- The disk after a call that left some tree. -/
def after (s : Disk) (t : FileTree) : Disk := ⟨t, s.calls + 1⟩

/-- A change of the tree, which stays as it is when the change fails. -/
def change (s : Disk) (f : FileTree → Except FileFault FileTree) : Except FileFault Unit × Disk :=
  match f s.tree with
  | .ok t => (.ok (), s.after t)
  | .error e => (.error e, s.after s.tree)

variable (troubles : Troubles)

/-! ## Directories -/

/-- Makes one directory. -/
def makeDir (p : Place) (steps : List String) (s : Disk) : Except FileFault Unit × Disk :=
  match troubles s.calls with
  | some trouble => (.error trouble.fault, s.after s.tree)
  | none => s.change (fun t => t.makeDir p steps)

/-- A directory stands where the steps lead to, as far as one is allowed to see. -/
def isDirectory (p : Place) (steps : List String) (s : Disk) : Bool × Disk :=
  ((troubles s.calls).isNone && s.tree.isDirectory p steps, s.after s.tree)

/-- What comes of making a directory, which may have been there already. -/
def orThere (p : Place) (steps : List String) :
    Except FileFault Unit × Disk → Except FileFault Unit × Disk
  | (.ok (), s) => (.ok (), s)
  | (.error f, s) =>
    match isDirectory troubles p steps s with
    | (true, s') => (.ok (), s')
    | (false, s') => (.error f, s')

/-- Makes a directory; when something above it is missing, `above` makes that first. -/
def makeDirAfter (above : Disk → Except FileFault Unit × Disk) (p : Place) (steps : List String)
    (s : Disk) : Except FileFault Unit × Disk :=
  match makeDir troubles p steps s with
  | (.error .notFound, s') =>
    match above s' with
    | (.error f, s'') => (.error f, s'')
    | (.ok (), s'') => orThere troubles p steps (makeDir troubles p steps s'')
  | outcome => orThere troubles p steps outcome

/-- Makes a directory and all above it, given its parts from the last one up. Those made before a
failure stay. -/
def makeAll (p : Place) : List String → Disk → Except FileFault Unit × Disk
  | [] => fun s => (.ok (), s)
  | part :: above => makeDirAfter troubles (makeAll p above) p (part :: above).reverse

/-- Makes the directory of a path and all above it. The path is taken as it is written, those of the
directories above by their parts. -/
def makeDirs (here : Place) (path : String) (s : Disk) : Except FileFault Unit × Disk :=
  if path.isEmpty then (.ok (), s)
  else match FileTree.checkPath path with
    | .error f => (.error f, s)
    | .ok () =>
      let p := FileTree.start here path
      makeDirAfter troubles (makeAll troubles p (FileTree.parts path).reverse.tail) p
        (FileTree.steps path) s

/-! ## Texts -/

/-- The text of a file. -/
def readText (here : Place) (path : String) (s : Disk) : Except FileFault String × Disk :=
  match troubles s.calls with
  | some trouble => (.error trouble.fault, s.after s.tree)
  | none => (s.tree.readText here path, s.after s.tree)

/-- The first bytes of a text, if they are a text themselves. -/
def cut (text : String) (bytes : Nat) : Option String :=
  String.fromUTF8? (text.toUTF8.extract 0 bytes)

/-- Writes a text. If that breaks off, the file is left with the bytes that came before. -/
def writeText (here : Place) (path text : String) (s : Disk) : Except FileFault Unit × Disk :=
  match troubles s.calls with
  | none => s.change (fun t => t.write here path (some text))
  | some (.refused f) => (.error f, s.after s.tree)
  | some (.broken bytes f) =>
    match s.tree.write here path (cut text bytes) with
    | .ok t => (.error f, s.after t)
    | .error e => (.error e, s.after s.tree)

/-! ## Hosts -/

/-- The host that reads and writes a disk from the directory where the program runs, with a standard
input; none for one that is no text. -/
def hostAt (here : Place) (input : Option String) : Host (StateM Disk) where
  readText path := readText troubles here path
  readInput := fun s => (match input with
    | some text => .ok text
    | none => .error .notText, s)
  makeDirs path := makeDirs troubles here path
  writeText path text := writeText troubles here path text

/-- The host that runs at the root of a disk where nothing goes wrong. -/
def host (input : Option String) : Host (StateM Disk) := hostAt (fun _ => none) [] input

end Disk

end TableDraft.Output
