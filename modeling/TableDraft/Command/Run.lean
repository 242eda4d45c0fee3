import TableDraft.Command.Options
import TableDraft.Ddl.Grammar
import TableDraft.Output.Writer
import TableDraft.Request

/-!
# Running the command

The command gathers a request from a request file, input files, options and a rules file, drafts the
statements, and writes them to files, as a response, or as text. At the end it may check each
statement. Its exit code is 0, 1 when a check refuses a statement, and 2 for any other failure.

Everything that touches the outside goes through a `Host`; the engine for patterns and the judgement on
a statement are parameters.
-/

namespace TableDraft.Command

open Ddl Output

/-- What is reported on the side. -/
inductive Complaint where
  /-- A file, the standard input or the rules cannot be read. -/
  | unreadable (what : String) (fault : FileFault)
  /-- The request or the rules are no proper document. -/
  | invalid (what : String) (e : DraftError)
  /-- Nothing can be drafted. -/
  | failed (e : DraftError)
  /-- None of the identifiers names a dialect. -/
  | noDialect
  /-- The statements cannot be written. -/
  | unwritten (e : DraftError)
  /-- A statement is refused. -/
  | refused (e : DraftError)
deriving DecidableEq, Repr

/-- The wording of a complaint. -/
def Complaint.message : Complaint → String
  | unreadable what fault => "Error reading " ++ what ++ ": " ++ fault.message
  | invalid what e => "Error parsing " ++ what ++ ": " ++ e.message
  | failed e => "Error: " ++ e.message
  | noDialect => "No supported dialect requested"
  | unwritten e => "Error writing output: " ++ e.message
  | refused e => e.message

/-- How a run ends: its exit code, its output, and its complaints. -/
structure Outcome where
  code : Nat
  output : String
  complaints : List Complaint
deriving DecidableEq, Repr

/-- A run that ends with one complaint. -/
def Outcome.failure (c : Complaint) : Outcome := ⟨2, "", [c]⟩

variable {m : Type → Type} [Monad m]

/-- The texts of some files, each with a line break after it. -/
def readInputs (host : Host m) : List String → m (Except Complaint String)
  | [] => pure (.ok "")
  | path :: rest => do
    match ← host.readText path with
    | .error f => pure (.error (.unreadable path f))
    | .ok text =>
      match ← readInputs host rest with
      | .error c => pure (.error c)
      | .ok more => pure (.ok (text ++ "\n" ++ more))

/-- The query text: that of the input files, or the standard input when there are none. -/
def readSql (host : Host m) (inputs : List String) : m (Except Complaint String) := do
  if inputs.isEmpty then
    match ← host.readInput with
    | .error f => pure (.error (.unreadable "stdin" f))
    | .ok text => pure (.ok text)
  else readInputs host inputs

/-- The request of a file, or an empty one. -/
def readRequest (host : Host m) (path : Option String) : m (Except Complaint Request) := do
  match path with
  | none => pure (.ok (Request.ofSql ""))
  | some path =>
    match ← host.readText path with
    | .error f => pure (.error (.unreadable path f))
    | .ok text =>
      match Request.ofText text with
      | .error e => pure (.error (.invalid "request" e))
      | .ok r => pure (.ok r)

/-- The rules of a request with those of a file. -/
def readRules (host : Host m) (path : Option String) (rules : RuleSet) : m (Except Complaint RuleSet) := do
  match path with
  | none => pure (.ok rules)
  | some path =>
    match ← host.readText path with
    | .error f => pure (.error (.unreadable "rules" f))
    | .ok text =>
      match rules.load text with
      | (.error e, _) => pure (.error (.invalid "rules" e))
      | (.ok (), rules) => pure (.ok rules)

/-- The request that the options and their files make up. -/
def gather (host : Host m) (o : Options) : m (Except Complaint Request) := do
  match ← readRequest host o.request with
  | .error c => pure (.error c)
  | .ok r =>
    let sql ← if !o.inputs.isEmpty || o.request.isNone then readSql host o.inputs else pure (.ok r.sql)
    match sql with
    | .error c => pure (.error c)
    | .ok sql =>
      match ← readRules host o.rules r.rulesByDatabase with
      | .error c => pure (.error c)
      | .ok rules =>
        pure (.ok {
          sql
          databaseTypes := if o.dialects.isEmpty then r.databaseTypes else o.dialects
          rulesByDatabase := rules
          tableName := o.tableName.or r.tableName
          tableComment := o.tableComment.or r.tableComment })

/-- The name of a path's last part without what follows its last dot, unless the dot comes first. -/
def stem? (path : String) : Option String :=
  match (FileTree.parts path).getLast? with
  | none | some ".." => none
  | some last =>
    match (last.toList.reverse.dropWhile (· != '.')).reverse.dropLast with
    | [] => some last
    | s => some (String.ofList s)

/-- The name of the output files: that of the first input file. -/
def outputName (inputs : List String) : String := (inputs.head?.bind stem?).getD "output"

/-- Hands the statements out: into a directory, or as the text of the output. -/
def emit (host : Host m) (o : Options) (drafts : List Draft) : m (Except Complaint String) := do
  match o.outputDir with
  | some dir =>
    match ← writeDrafts host dir (outputName o.inputs) drafts with
    | .error e => pure (.error (.unwritten e))
    | .ok () => pure (.ok "")
  | none =>
    if o.json then pure (.ok ((Exchange.response.encode (Response.ofDrafts drafts)).pretty ++ "\n"))
    else pure (.ok (formatDrafts drafts ++ "\n"))

/-- The refusals of statements by a judgement. -/
def refusals (judge : Dialect → String → Except DraftError Nat) (drafts : List Draft) :
    List DraftError :=
  drafts.filterMap fun d =>
    match Dialect.ofId? d.databaseType with
    | none => none
    | some dialect =>
      match judge dialect d.ddl with
      | .error e => some e
      | .ok _ => none

/-- Runs the command with the given options. -/
def runWith [PatternEngine] (judge : Dialect → String → Except DraftError Nat) (host : Host m)
    (o : Options) : m Outcome := do
  match ← gather host o with
  | .error c => pure (.failure c)
  | .ok request =>
    match request.generate with
    | .error e => pure (.failure (.failed e))
    | .ok [] => pure (.failure .noDialect)
    | .ok drafts =>
      match ← emit host o drafts with
      | .error c => pure (.failure c)
      | .ok output =>
        let refused := if o.check then refusals judge drafts else []
        pure ⟨if refused.isEmpty then 0 else 1, output, refused.map .refused⟩

/-- Runs the command with the given options, by the project's own grammar. -/
def run [PatternEngine] (host : Host m) (o : Options) : m Outcome := runWith statementCount host o

end TableDraft.Command
