import LintGate.Config.Settings

/-! Arguments of the command line. Options are long names with a value after an equals sign or in
the next argument; each may come once. The first thing that is wrong is what is reported. -/
namespace LintGate

inductive UsageError where
  | helpWanted
  | versionWanted
  | nothingGiven
  | unknownArgument
  | unknownCommand
  | conflict
  | unwantedValue
  | missingValue
  | badValue
deriving DecidableEq, Repr

def UsageError.exitCode : UsageError → Nat
  | .helpWanted => 0
  | .versionWanted => 0
  | _ => 2

structure RunOptions where
  root : Option String
  config : Option String
  refspec : Option String
  diffFile : Option String
  jobs : Option Nat
  timeout : Option Nat
  output : Option String
  verbose : Bool
deriving DecidableEq, Repr

def RunOptions.overrides (o : RunOptions) : Overrides :=
  ⟨o.root, o.config, o.jobs, o.timeout, o.output⟩

inductive Invocation where
  | version
  | checkers (output : Option String)
  | run (options : RunOptions)
deriving DecidableEq, Repr

namespace CommandLine

inductive Argument where
  | text
  | number
  | switch
  | help
deriving DecidableEq, Repr

structure OptionSpec where
  name : String
  letter : Option Char
  argument : Argument
deriving DecidableEq, Repr

def OptionSpec.takesValue (o : OptionSpec) : Bool := o.argument == .text || o.argument == .number

def helpOption : OptionSpec := ⟨"help", some 'h', .help⟩

def checkersOptions : List OptionSpec := [⟨"output", none, .text⟩, helpOption]

def runOptions : List OptionSpec :=
  [⟨"repo-root", none, .text⟩, ⟨"config", none, .text⟩, ⟨"refspec", none, .text⟩,
   ⟨"diff-file", none, .text⟩, ⟨"jobs", none, .number⟩, ⟨"timeout", none, .number⟩,
   ⟨"output", none, .text⟩, ⟨"verbose", some 'v', .switch⟩, helpOption]

inductive Shape where
  | divider
  | long (name : String) (value : Option String)
  | short (letters : List Char)
  | bare
deriving DecidableEq, Repr

def shape (arg : String) : Shape :=
  match arg.toList with
  | ['-', '-'] => .divider
  | '-' :: '-' :: rest =>
    match Text.cut? '=' rest with
    | some (name, value) => .long (String.ofList name) (some (String.ofList value))
    | none => .long (String.ofList rest) none
  | '-' :: c :: rest => .short (c :: rest)
  | _ => .bare

/-- Arguments read so far. The value of the option that was named last is checked only when the
next option comes or the arguments end. -/
structure Reading where
  values : List (String × String)
  pending : Option (OptionSpec × Option String)
  divided : Bool
deriving DecidableEq, Repr

namespace Reading

def start : Reading := ⟨[], none, false⟩

def has (r : Reading) (name : String) : Bool := (r.values.lookup name).isSome

def accept (r : Reading) (o : OptionSpec) (value : Option String) : Except UsageError Reading :=
  match o.argument, value with
  | .help, _ => .error .helpWanted
  | .switch, _ =>
    if r.has o.name then .error .conflict
    else .ok { r with values := (o.name, "") :: r.values }
  | _, none => .error .missingValue
  | kind, some v =>
    if r.has o.name then .error .conflict
    else if kind = .number ∧ (Text.unsigned? Text.limit64 v.toList).isNone then .error .badValue
    else .ok { r with values := (o.name, v) :: r.values }

def settle (r : Reading) : Except UsageError Reading :=
  match r.pending with
  | none => .ok r
  | some (o, value) => { r with pending := none }.accept o value

def readLong (options : List OptionSpec) (r : Reading) (name : String) (value : Option String) :
    Except UsageError Reading :=
  match options.find? (fun o => o.name == name), value with
  | none, _ => .error .unknownArgument
  | some o, some v =>
    if o.takesValue then do
      let r ← r.settle
      r.accept o (some v)
    else .error .unwantedValue
  | some o, none => do
    let r ← r.settle
    if o.takesValue then .ok { r with pending := some (o, none) } else r.accept o none

def readShort (options : List OptionSpec) (r : Reading) : List Char → Except UsageError Reading
  | [] => .ok r
  | c :: rest =>
    match options.find? (fun o => o.letter == some c) with
    | none => .error .unknownArgument
    | some o => do
      let r ← r.settle
      let r ← r.accept o none
      readShort options r rest

def readBare (r : Reading) (arg : String) : Except UsageError Reading :=
  match r.pending with
  | some (o, none) => .ok { r with pending := some (o, some arg) }
  | _ => .error .unknownArgument

def read (options : List OptionSpec) (r : Reading) (arg : String) : Except UsageError Reading :=
  if r.divided then .error .unknownArgument
  else match shape arg with
    | .divider => .ok { r with divided := true }
    | .long name value => r.readLong options name value
    | .short letters => r.readShort options letters
    | .bare => r.readBare arg

def readAll (options : List OptionSpec) (args : List String) : Except UsageError Reading := do
  let r ← args.foldlM (read options) start
  r.settle

def number? (r : Reading) (name : String) : Option Nat :=
  (r.values.lookup name).bind (fun v => Text.unsigned? Text.limit64 v.toList)

end Reading

def parseRun (args : List String) : Except UsageError Invocation := do
  let r ← Reading.readAll runOptions args
  if r.has "refspec" ∧ r.has "diff-file" then .error .conflict
  else
    let text (name : String) := r.values.lookup name
    .ok (.run ⟨text "repo-root", text "config", text "refspec", text "diff-file", r.number? "jobs",
      r.number? "timeout", text "output", r.has "verbose"⟩)

def parseCheckers (args : List String) : Except UsageError Invocation := do
  let r ← Reading.readAll checkersOptions args
  .ok (.checkers (r.values.lookup "output"))

def parseVersion (args : List String) : Except UsageError Invocation := do
  let _ ← Reading.readAll [helpOption] args
  .ok .version

def commands : List (String × (List String → Except UsageError Invocation)) :=
  [("version", parseVersion), ("run", parseRun), ("linters", parseCheckers)]

def isCommand (name : String) : Bool := name == "help" || (commands.lookup name).isSome

def parseHelp : List String → UsageError
  | [] => .helpWanted
  | [name] => if isCommand name then .helpWanted else .unknownCommand
  | _ => .unknownCommand

def parseTop (arg : String) (rest : List String) : UsageError :=
  match shape arg, rest with
  | .divider, [] => .nothingGiven
  | .divider, name :: _ => if isCommand name then .unknownArgument else .unknownCommand
  | .long name value, _ =>
    if name ≠ "help" ∧ name ≠ "version" then .unknownArgument
    else if value.isSome then .unwantedValue
    else if name = "help" then .helpWanted
    else .versionWanted
  | .short letters, _ =>
    if letters.head? = some 'h' then .helpWanted
    else if letters.head? = some 'V' then .versionWanted
    else .unknownArgument
  | .bare, _ => .unknownCommand

def parse : List String → Except UsageError Invocation
  | [] => .error .nothingGiven
  | arg :: rest =>
    match commands.lookup arg with
    | some read => read rest
    | none => if arg = "help" then .error (parseHelp rest) else .error (parseTop arg rest)

end CommandLine

end LintGate
