/-!
# Command line options

Reads the arguments of the command: input files, options with a value, and switches. An option's
value is the next argument or follows an equals sign; an argument that starts with a dash is never
taken as a value. Only `--dialect` may come more than once. After `--` everything is an input file.
-/

namespace TableDraft.Command

/-- What the arguments ask for. -/
structure Options where
  inputs : List String := []
  dialects : List String := []
  rules : Option String := none
  request : Option String := none
  tableName : Option String := none
  tableComment : Option String := none
  outputDir : Option String := none
  json : Bool := false
  check : Bool := false
  verbose : Bool := false
deriving DecidableEq, Repr

/-- What reading the arguments gives. -/
inductive Parsed where
  | options (o : Options)
  | help
  | usageError
deriving DecidableEq, Repr

namespace Options

/-- Sets an option that may come once. -/
def once (old : Option String) (value : String) (put : Option String → Options) : Option Options :=
  if old.isSome then none else some (put (some value))

/-- Sets an option that may come once and whose value is a path, which is never empty. -/
def oncePath (old : Option String) (value : String) (put : Option String → Options) : Option Options :=
  if value.isEmpty then none else once old value put

/-- Sets an option that takes a value. -/
def setValue? (o : Options) (name value : String) : Option Options :=
  match name with
  | "dialect" => some { o with dialects := o.dialects ++ [value] }
  | "rules" => oncePath o.rules value (fun v => { o with rules := v })
  | "request" => oncePath o.request value (fun v => { o with request := v })
  | "table-name" => once o.tableName value (fun v => { o with tableName := v })
  | "table-comment" => once o.tableComment value (fun v => { o with tableComment := v })
  | "output-dir" => oncePath o.outputDir value (fun v => { o with outputDir := v })
  | _ => none

/-- The options that take a value. -/
def valueNames : List String :=
  ["dialect", "rules", "request", "table-name", "table-comment", "output-dir"]

/-- Turns a switch on, which may be done once. -/
def setSwitch? (o : Options) (name : String) : Option Options :=
  match name with
  | "json" => if o.json then none else some { o with json := true }
  | "check" => if o.check then none else some { o with check := true }
  | "verbose" => if o.verbose then none else some { o with verbose := true }
  | _ => none

/-- Adds an input file. -/
def addInput? (o : Options) (path : String) : Option Options :=
  if path.isEmpty then none else some { o with inputs := o.inputs ++ [path] }

/-- Adds input files. -/
def addInputs? (o : Options) : List String → Option Options
  | [] => some o
  | p :: r => (o.addInput? p).bind (fun o => addInputs? o r)

/-- An argument that cannot be a value: it starts with a dash and is more than that. -/
def isOptionLike (arg : String) : Bool :=
  match arg.toList with
  | '-' :: _ :: _ => true
  | _ => false

end Options

/-! ## Arguments -/

/-- What one argument, or an option with its value, does to the options. -/
inductive Change where
  | value (name value : String)
  | switch (name : String)
  | input (path : String)
deriving DecidableEq, Repr

namespace Options

/-- Makes a change; none when the options do not admit it. -/
def changed? (o : Options) : Change → Option Options
  | .value name v => o.setValue? name v
  | .switch name => o.setSwitch? name
  | .input path => o.addInput? path

end Options

/-- What an argument is by itself. -/
inductive Argument where
  | help
  /-- No option is written so. -/
  | unknown
  /-- Everything after it is an input file. -/
  | onlyInputs
  | change (c : Change)
  /-- An option whose value is the next argument. -/
  | option (name : String)
deriving DecidableEq, Repr

open Options

/-- Reads an argument by itself. -/
def Argument.ofString (arg : String) : Argument :=
  match arg.toList with
  | ['-', '-'] => onlyInputs
  | '-' :: '-' :: long =>
    let name := String.ofList (long.takeWhile (· != '='))
    match long.dropWhile (· != '=') with
    | _ :: value => change (.value name (String.ofList value))
    | [] =>
      if name == "help" then help
      else if valueNames.contains name then option name
      else change (.switch name)
  | '-' :: 'h' :: _ => help
  | ['-', 'd'] => option "dialect"
  | '-' :: 'd' :: value =>
    let value := match value with
      | '=' :: value => value
      | value => value
    change (.value "dialect" (String.ofList value))
  | '-' :: _ :: _ => unknown
  | _ => change (.input arg)

/-- What some options, if there are any, come to. -/
def Parsed.ofOption (o : Option Options) (next : Options → Parsed) : Parsed :=
  match o with
  | none => .usageError
  | some o => next o

/-- Reads arguments after those that gave the options up to now. -/
def parseFrom (o : Options) : List String → Parsed
  | [] => .options o
  | arg :: rest =>
    match Argument.ofString arg with
    | .help => .help
    | .unknown => .usageError
    | .onlyInputs => Parsed.ofOption (o.addInputs? rest) .options
    | .change c => Parsed.ofOption (o.changed? c) (fun o => parseFrom o rest)
    | .option name =>
      match rest with
      | [] => .usageError
      | value :: rest =>
        if isOptionLike value then .usageError
        else Parsed.ofOption (o.changed? (.value name value)) (fun o => parseFrom o rest)

/-- Reads the arguments. -/
def parse (args : List String) : Parsed := parseFrom {} args

end TableDraft.Command
