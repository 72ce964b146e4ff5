import LintGate.Config.Error
import LintGate.Config.File

/-! Settings of a run: what the command line says, else the configuration file, else the
defaults. -/
namespace LintGate

def configNames : List String := [".patchlint.yml", ".patchlint.yaml", ".patchlint.toml"]

def defaultTimeout : Nat := 300

def configIn? (tree : FileTree) (root : String) : Option String :=
  (configNames.map (Path.join root)).find? tree.isFile

def isRoot (tree : FileTree) (directory : String) : Bool :=
  (configIn? tree directory).isSome || tree.present (Path.join directory ".git")

def nearestRoot? (tree : FileTree) (path : String) : Nat → Option String
  | 0 => none
  | fuel + 1 =>
    if isRoot tree path then some path
    else (Path.parent? path).bind (fun parent => nearestRoot? tree parent fuel)

/-- The nearest root, or the start itself when there is none. A path has fewer parents than
characters, apart from the empty one. -/
def detectRoot (tree : FileTree) (start : String) : String :=
  (nearestRoot? tree start (start.length + 2)).getD start

structure Overrides where
  root : Option String
  config : Option String
  jobs : Option Nat
  timeout : Option Nat
  output : Option String
deriving DecidableEq, Repr

inductive OutputFormat where
  | human
  | json
deriving DecidableEq, Repr

def OutputFormat.word : OutputFormat → String
  | .human => "human"
  | .json => "json"

def OutputFormat.ofWord? : String → Option OutputFormat
  | "human" => some .human
  | "json" => some .json
  | _ => none

structure Settings where
  root : String
  configPath : String
  jobs : Option Nat
  timeout : Option Nat
  output : OutputFormat
  entries : List Entry
deriving BEq, Repr

def loadConfig (tree : FileTree) (path : String) : Except SetupError ConfigFile :=
  match tree.readText path with
  | .error cause => .error (.unreadable path cause)
  | .ok text =>
    match ConfigFile.parse? (Path.extension? path) text with
    | some file => .ok file
    | none => .error (.unparsable path)

namespace Settings

def merge (root path : String) (file : ConfigFile) (given : Overrides) :
    Except SetupError Settings := do
  let jobs := given.jobs.or file.jobs
  if jobs = some 0 then .error .zeroJobs
  let timeout := (given.timeout.or file.timeout).getD defaultTimeout
  let word := (given.output.or file.output).getD OutputFormat.human.word
  match OutputFormat.ofWord? word with
  | none => .error (.badOutput word)
  | some output =>
    .ok ⟨root, path, jobs, if timeout = 0 then none else some timeout, output, file.entries⟩

def resolve (tree : FileTree) (given : Overrides) : Except SetupError Settings := do
  let root := detectRoot tree (given.root.getD ".")
  let path ← match given.config with
    | some explicit => .ok (Path.join root explicit)
    | none =>
      match configIn? tree root with
      | some path => .ok path
      | none => .error (.noConfig root)
  let file ← loadConfig tree path
  merge root path file given

end Settings

end LintGate
