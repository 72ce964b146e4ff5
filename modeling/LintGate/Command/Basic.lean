import LintGate.Text.Blank
import LintGate.Text.Cut

/-! External commands: what they answer, and how a checker fails when they do not answer as
it needs. -/
namespace LintGate

abbrev Command := List String

def commandLine (command : Command) : String := Text.join " " command

structure Output where
  stdout : String
  stderr : String
  code : Option Int
deriving DecidableEq, Repr

inductive Failure where
  | spawn (command reason : String)
  | rejected (command : String) (code : Option Int) (stderr : String)
  | timedOut (command : String) (seconds : Nat)
  | io (reason : String)
  | diff (reason : String)
deriving DecidableEq, Repr

def exitText : Option Int → String
  | none => "terminated"
  | some code => toString code

def Failure.message : Failure → String
  | .spawn command reason => "could not start `" ++ command ++ "`: " ++ reason
  | .rejected command code stderr =>
    "`" ++ command ++ "` failed (exit " ++ exitText code ++ "): " ++ stderr
  | .timedOut command seconds => "`" ++ command ++ "` timed out after " ++ toString seconds ++ "s"
  | .io reason => "i/o error: " ++ reason
  | .diff reason => "could not compute diff: " ++ reason

abbrev Acceptance := Output → Bool

namespace Acceptance

def always : Acceptance := fun _ => true

def exitZero : Acceptance := fun out => out.code == some 0

def exitBelowTwo : Acceptance := fun out => out.code == some 0 || out.code == some 1

end Acceptance

abbrev Runner := Command → Except Failure Output

def Runner.run (runner : Runner) (accepts : Acceptance) (command : Command) :
    Except Failure Output :=
  match runner command with
  | .error failure => .error failure
  | .ok out =>
    if accepts out then .ok out
    else .error (.rejected (commandLine command) out.code (Text.trimmed out.stderr))

structure Traced (α : Type) where
  calls : List Command
  result : Except Failure α

end LintGate
