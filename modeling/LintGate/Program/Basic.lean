import LintGate.Change.Supply
import LintGate.Checker.Builtin
import LintGate.CommandLine.Basic
import LintGate.Plan.Run
import LintGate.Report.Render

/-! The whole program as a function of its arguments and of what it finds around it. A mistake
in the configuration ends it before any command is run. -/
namespace LintGate

structure World where
  tree : FileTree
  input : ByteArray
  coloured : Bool
  launch : String → Option Nat → Runner

structure Outcome where
  exit : Nat
  stdout : String
  stderr : String
  calls : List Command
deriving DecidableEq, Repr

inductive RunError where
  | setup (error : SetupError)
  | execution (failure : Failure)
deriving BEq, Repr

def RunError.message : RunError → String
  | .setup error => error.message
  | .execution failure => failure.message

def programName : String := "patchlint"

def programVersion : String := "0.1.0"

def setupExit : Nat := 2

namespace Program

def marked (coloured : Bool) (mark : Text.Span) (text : String) : String :=
  mark.render coloured ++ " " ++ text ++ "\n"

def fail (world : World) (notes : String) (calls : List Command) (error : RunError) : Outcome :=
  ⟨setupExit, "", notes ++ marked world.coloured errorMark error.message, calls⟩

def prepare (world : World) (options : RunOptions) : Except SetupError (Settings × Plan) := do
  let settings ← Settings.resolve world.tree options.overrides
  let plan ← Plan.ofEntries .builtin settings.entries
  .ok (settings, plan)

def changes (world : World) (runner : Runner) (root : String) (options : RunOptions) :
    Traced (Option ChangedLines) :=
  match options.refspec, options.diffFile with
  | some refspec, _ =>
    let traced := changedSince runner world.tree root refspec
    ⟨traced.calls, traced.result.map some⟩
  | none, some source => ⟨[], (changedInDiff world.tree world.input root source).map some⟩
  | none, none => ⟨[], .ok none⟩

def candidates (world : World) (runner : Runner) (root : String)
    (diff : Option ChangedLines) : Traced (List String) :=
  match diff with
  | some changes => ⟨[], .ok changes.files⟩
  | none => trackedFiles runner world.tree root

def reportText (coloured : Bool) (format : OutputFormat) (report : Report) : String :=
  match format with
  | .json => report.toJson.pretty
  | .human => report.human coloured

def notes (world : World) (settings : Settings) : String :=
  if settings.entries.isEmpty ∧ settings.output ≠ .json then
    marked world.coloured noteMark ("No linters configured in " ++ settings.configPath)
  else ""

def execute (world : World) (options : RunOptions) (settings : Settings) (plan : Plan) : Outcome :=
  let runner := world.launch settings.root settings.timeout
  let notes := notes world settings
  let diff := changes world runner settings.root options
  match diff.result with
  | .error failure => fail world notes diff.calls (.execution failure)
  | .ok changed =>
    let files := candidates world runner settings.root changed
    match files.result with
    | .error failure => fail world notes (diff.calls ++ files.calls) (.execution failure)
    | .ok names =>
      let result := plan.execute ⟨settings.root, world.tree, runner⟩ names changed
      ⟨if result.report.ok then 0 else 1,
        reportText world.coloured settings.output result.report ++ "\n", notes,
        diff.calls ++ files.calls ++ result.calls⟩

def run (world : World) (options : RunOptions) : Outcome :=
  match prepare world options with
  | .error error => fail world "" [] (.setup error)
  | .ok (settings, plan) => execute world options settings plan

def listing (world : World) (output : Option String) : String :=
  if output = some OutputFormat.json.word then Registry.builtin.toJson.pretty
  else Registry.builtin.human world.coloured

def usage : String :=
  "Usage: " ++ programName ++ " <version|run|linters|help> [options]\n"

def refuse (error : UsageError) : Outcome :=
  match error with
  | .versionWanted => ⟨error.exitCode, programName ++ " " ++ programVersion ++ "\n", "", []⟩
  | .helpWanted => ⟨error.exitCode, usage, "", []⟩
  | _ => ⟨error.exitCode, "", usage, []⟩

def respond (world : World) (args : List String) : Outcome :=
  match CommandLine.parse args with
  | .error error => refuse error
  | .ok .version => ⟨0, programVersion ++ "\n", "", []⟩
  | .ok (.checkers output) => ⟨0, listing world output ++ "\n", "", []⟩
  | .ok (.run options) => run world options

end Program

end LintGate
