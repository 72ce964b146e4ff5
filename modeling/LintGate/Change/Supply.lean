import LintGate.Change.Diff
import LintGate.Command.Basic
import LintGate.Files.Tree

/-! Where the changed lines and the files of a run come from: the version control system, or a
diff that was computed before. Only files that exist below the root count. -/
namespace LintGate

def asDiffFailure (result : Except Failure Output) : Except Failure Output :=
  match result with
  | .ok out => .ok out
  | .error failure => .error (.diff failure.message)

def existsBelow (tree : FileTree) (root file : String) : Bool := tree.isFile (Path.join root file)

def diffCommand (refspec : String) : Command :=
  ["git", "diff", "-U0", "--no-color", "--no-ext-diff"] ++
    (Text.words refspec.toList).map String.ofList

def changedSince (runner : Runner) (tree : FileTree) (root refspec : String) :
    Traced ChangedLines :=
  let command := diffCommand refspec
  let out := asDiffFailure (runner.run .exitZero command)
  ⟨[command], out.map (fun out => (ChangedLines.ofDiff out.stdout).retain (existsBelow tree root))⟩

def listCommand : Command := ["git", "ls-files"]

def trackedFiles (runner : Runner) (tree : FileTree) (root : String) : Traced (List String) :=
  let out := asDiffFailure (runner.run .exitZero listCommand)
  ⟨[listCommand], out.map (fun out =>
    let names := (Text.lines out.stdout.toList).map (fun line => String.ofList (Text.trim line))
    names.filter (fun name => !name.isEmpty && existsBelow tree root name))⟩

def diffText (tree : FileTree) (input : ByteArray) (source : String) : Except Failure String :=
  if source = "-" then
    match decodeText input with
    | .ok text => .ok text
    | .error e => .error (.diff ("cannot read diff from stdin: " ++ e.message))
  else
    match tree.readText source with
    | .ok text => .ok text
    | .error e => .error (.diff ("cannot read " ++ source ++ ": " ++ e.message))

def changedInDiff (tree : FileTree) (input : ByteArray) (root source : String) :
    Except Failure ChangedLines :=
  (diffText tree input source).map (fun text =>
    (ChangedLines.ofDiff text).retain (existsBelow tree root))

end LintGate
