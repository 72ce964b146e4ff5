import LintGate.Command.Basic
import LintGate.Shell.Run

/-! Running commands as processes: a command is looked up, started in a directory with nothing on
its input, and watched until it ends or its time is over. -/
namespace LintGate.Shell

structure Launcher where
  tree : FileTree
  directory : Option String
  bindings : List (String × String)
  timeout : Option Nat

def stepLimit : Nat := 60000

def Launcher.machine (l : Launcher) (directory : Place) : Machine :=
  { tree := l.tree, directory := directory, bindings := l.bindings
    exported := l.bindings.map (·.1), arguments := [], name := "sh", line := 0, depth := 0
    functions := [], traps := [], status := 0, strict := false, guarded := false, input := .empty
    out := .buffer 0, err := .buffer 1, buffers := #[.empty, .empty], elapsed := 0 }

def Launcher.place (l : Launcher) : Except LaunchError Place :=
  match l.directory with
  | none => .ok (.inside [])
  | some path =>
    match l.tree.locate path with
    | .error e => .error (.ofReadError e)
    | .ok place => if l.tree.isDirectoryAt place then .ok place else .error .notDirectory

def checkFormat (m : Machine) : Program → Except LaunchError Unit
  | .script _ bytes =>
    match interpreter? bytes with
    | none => .error .badFormat
    | some line => (m.program (line.headD "")).map (fun _ => ())
  | _ => .ok ()

inductive Ending where
  | exited (code : Nat)
  | signalled
  | running
deriving DecidableEq, Repr

def finish (result : Except Flow Unit × Machine) : Ending :=
  match result.1 with
  | .error (.killed _) => .signalled
  | .error (.endless _) => .running
  | _ => .exited result.2.status

/-- Runs one command. A command that would never end, with no limit on its time, counts as having
reached the limit of steps. -/
def Launcher.run (l : Launcher) (command : Command) : Except Failure Output :=
  match command with
  | [] => .error (.spawn "" "empty command")
  | name :: args =>
    let line := commandLine command
    let started : Except LaunchError (Machine × Program) := do
      if command.any (fun word => word.toList.contains '\x00') then .error .nulByte
      let place ← l.place
      let machine := l.machine place
      let program ← machine.program name
      checkFormat machine program
      .ok (machine, program)
    match started with
    | .error e => .error (.spawn line e.message)
    | .ok (machine, program) =>
      let result := ((runProgram program name args stepLimit).run.run machine)
      let late := l.timeout.any (fun limit => limit ≤ result.2.elapsed)
      let limit := l.timeout.getD 0 / 1000
      let text (index : Nat) : String := Text.lossy (result.2.buffers[index]?.getD .empty)
      match finish result with
      | .running => .error (.timedOut line limit)
      | .signalled => if late then .error (.timedOut line limit) else .ok ⟨text 0, text 1, none⟩
      | .exited code =>
        if late then .error (.timedOut line limit) else .ok ⟨text 0, text 1, some code⟩

end LintGate.Shell
