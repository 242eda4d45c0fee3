/-!
# Files and directories

A tree of files as a value: what stands at which place below the root. A place holds a directory, a file,
or a link, which is another path. A file has a number and may have several names; what it holds is kept
under its number.

Paths are resolved step by step, as Linux does it: a step is taken from a directory only, it has at most
255 bytes, a link on the way is followed, 40 of them at most, and a path that does not start at the root
starts where the program runs. `readText`, `makeDir` and `write` say what one call of the system does to
such a tree, and how it fails.
-/

namespace TableDraft.Output

/-- How reading or writing a file fails. -/
inductive FileFault where
  | notFound
  | exists
  | notDirectory
  | isDirectory
  | nameTooLong
  | tooManyLinks
  | denied
  | nulInName
  | notText
  /-- Any other way, in the system's words. -/
  | other (message : String)
deriving DecidableEq, Repr

/-- The wording of a fault. -/
def FileFault.message : FileFault → String
  | notFound => "No such file or directory (os error 2)"
  | «exists» => "File exists (os error 17)"
  | notDirectory => "Not a directory (os error 20)"
  | isDirectory => "Is a directory (os error 21)"
  | nameTooLong => "File name too long (os error 36)"
  | tooManyLinks => "Too many levels of symbolic links (os error 40)"
  | denied => "Permission denied (os error 13)"
  | nulInName => "file name contained an unexpected NUL byte"
  | notText => "stream did not contain valid UTF-8"
  | other message => message

/-- What stands at a place: a directory, the file of some number, or a link to another path. -/
inductive Entry where
  | directory
  | file (number : Nat)
  | link (target : String)
deriving DecidableEq, Repr

/-- The number of a file. -/
def Entry.number? : Entry → Option Nat
  | file n => some n
  | _ => none

/-- What a file holds. -/
structure Content where
  /-- Its text; none for bytes that are no text. -/
  text : Option String
  /-- What is written to it stays, unlike with a pipe or a device. -/
  keeps : Bool
deriving DecidableEq, Repr

/-- What a new file holds. -/
def Content.empty : Content := ⟨some "", true⟩

/-- What a file holds once a text is written to it, in place of what it held. -/
def Content.written (c : Content) (text : Option String) : Content :=
  if c.keeps then { c with text } else c

/-- The names that lead to a file or directory, from the root down. -/
abbrev Place := List String

/-- What stands at which place, and what the files hold. The root is always there. -/
structure FileTree where
  names : List (Place × Entry)
  files : List (Nat × Content)
deriving DecidableEq, Repr

namespace FileTree

/-- No files. -/
def empty : FileTree := ⟨[], []⟩

/-- What stands at a place. -/
def get? (t : FileTree) (p : Place) : Option Entry :=
  if p.isEmpty then some .directory else t.names.lookup p

/-- What the file of a number holds. -/
def content (t : FileTree) (n : Nat) : Content := (t.files.lookup n).getD .empty

/-- Puts something at a place, instead of what was there. -/
def put (t : FileTree) (p : Place) (e : Entry) : FileTree :=
  { t with names := (p, e) :: t.names.filter (fun x => x.1 != p) }

/-- Changes what the file of a number holds, under all of its names. -/
def store (t : FileTree) (n : Nat) (c : Content) : FileTree :=
  { t with files := (n, c) :: t.files.filter (fun x => x.1 != n) }

/-- A number that no file has. -/
def fresh (t : FileTree) : Nat := (t.names.filterMap (fun x => x.2.number?)).max?.getD 0 + 1

/-- Puts a new file at a place. -/
def create (t : FileTree) (p : Place) (c : Content) : FileTree :=
  (t.put p (.file t.fresh)).store t.fresh c

/-! ## Paths -/

/-- The steps of a path, those included that stay where they are. -/
def steps (path : String) : List String :=
  ((path.toList.splitOn '/').map String.ofList).filter (· != "")

/-- The parts of a path: the steps that lead somewhere else. -/
def parts (path : String) : List String := (steps path).filter (· != ".")

/-- The path starts at the root of all directories. -/
def isAbsolute (path : String) : Bool := path.toList.head? == some '/'

/-- The place that a path starts from: the root, or the directory where the program runs. -/
def start (here : Place) (path : String) : Place := if isAbsolute path then [] else here

/-- The longest step of a path, in bytes. -/
def maxPart : Nat := 255

/-- The longest path, in bytes. -/
def maxPath : Nat := 4095

/-- A path that can be looked up at all. -/
def checkPath (path : String) : Except FileFault Unit :=
  if path.toList.contains '\x00' then .error .nulInName
  else if path.isEmpty then .error .notFound
  else if path.utf8ByteSize > maxPath then .error .nameTooLong
  else .ok ()

/-- The place that a step leads to from a directory. There is nothing above the root. -/
def enter (p : Place) (step : String) : Place :=
  if step == "." then p else if step == ".." then p.dropLast else p ++ [step]

/-- The path ends with a slash, so that it can only name a directory. -/
def endsInSlash (path : String) : Bool := path.toList.getLast? == some '/'

/-- The steps of a link. A slash at its end asks for a directory, as a step that stays there does. -/
def linkSteps (target : String) : List String :=
  if endsInSlash target then steps target ++ ["."] else steps target

/-- The longest chain of links that is followed. -/
def maxLinks : Nat := 40

/-- The place that some steps lead to, which need not exist. A step is taken from a directory only.
`jump` goes on from a link with the steps after it; a link at the end may be what is meant
itself. -/
def walkWith (t : FileTree) (jump : Place → String → List String → Except FileFault Place)
    (follow : Bool) (p : Place) : List String → Except FileFault Place
  | [] => .ok p
  | step :: rest =>
    match t.get? p with
    | none => .error .notFound
    | some (.file _) | some (.link _) => .error .notDirectory
    | some .directory =>
      if step.utf8ByteSize > maxPart then .error .nameTooLong
      else match t.get? (enter p step) with
        | some (.link target) =>
          if rest.isEmpty && !follow then .ok (enter p step) else jump p target rest
        | _ => walkWith t jump follow (enter p step) rest

/-- The place that some steps lead to over so many links at most. -/
def walk (t : FileTree) (follow : Bool) : Nat → Place → List String → Except FileFault Place
  | 0 => t.walkWith (fun _ _ _ => .error .tooManyLinks) follow
  | n + 1 => t.walkWith
      (fun p target rest => t.walk follow n (start p target) (linkSteps target ++ rest)) follow

/-- The place of a path. -/
def resolve (t : FileTree) (here : Place) (path : String) : Except FileFault Place := do
  checkPath path
  t.walk true maxLinks (start here path) (steps path)

/-! ## Reading and changing -/

/-- The text of a file. -/
def readText (t : FileTree) (here : Place) (path : String) : Except FileFault String := do
  let p ← t.resolve here path
  match t.get? p with
  | none => .error .notFound
  | some .directory => .error .isDirectory
  | some (.link _) => .error .tooManyLinks -- no path leads to a link
  | some (.file n) =>
    if endsInSlash path then .error .notDirectory
    else match (t.content n).text with
      | none => .error .notText
      | some s => .ok s

/-- A directory stands where the steps lead to. -/
def isDirectory (t : FileTree) (p : Place) (steps : List String) : Bool :=
  match t.walk true maxLinks p steps with
  | .ok q => t.get? q == some .directory
  | .error _ => false

/-- The tree with one more directory. Nothing may be there yet, not even a link. -/
def makeDir (t : FileTree) (p : Place) (steps : List String) : Except FileFault FileTree := do
  let q ← t.walk false maxLinks p steps
  match t.get? q with
  | some _ => .error .exists
  | none => .ok (t.put q .directory)

/-- The tree with a file of some text, new or in place of what the file at the path held; its directory
has to be there. None stands for bytes that are no text. -/
def write (t : FileTree) (here : Place) (path : String) (text : Option String) :
    Except FileFault FileTree := do
  let p ← t.resolve here path
  if endsInSlash path then .error .isDirectory
  else match t.get? p with
    | some .directory => .error .isDirectory
    | some (.link _) => .error .tooManyLinks -- no path leads to a link
    | some (.file n) => .ok (t.store n ((t.content n).written text))
    | none => .ok (t.create p (Content.empty.written text))

end FileTree

end TableDraft.Output
