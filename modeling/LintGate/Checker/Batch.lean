import LintGate.Checker.Basic

/-! Running an external tool over many files. A command takes a limited number of files, so a
long selection needs several; the first one that is not accepted ends the run. -/
namespace LintGate

def maxFilesPerCommand : Nat := 200

def batches : List String → List (List String)
  | [] => []
  | file :: rest =>
    (file :: rest.take (maxFilesPerCommand - 1)) :: batches (rest.drop (maxFilesPerCommand - 1))
termination_by files => files.length
decreasing_by
  simp only [List.length_drop, List.length_cons]
  omega

def runGroups (runner : Runner) (accepts : Acceptance) (read : Output → List Finding)
    (base : Command) : List (List String) → Traced (List Finding)
  | [] => ⟨[], .ok []⟩
  | group :: rest =>
    let command := base ++ group
    match runner.run accepts command with
    | .error failure => ⟨[command], .error failure⟩
    | .ok out =>
      let later := runGroups runner accepts read base rest
      ⟨command :: later.calls, later.result.map (read out ++ ·)⟩

def runBatched (runner : Runner) (accepts : Acceptance) (read : Output → List Finding)
    (base : Command) (files : List String) : Traced (List Finding) :=
  runGroups runner accepts read base (batches files)

structure ExternalTool where
  program : String
  arguments : List String
  accepts : Acceptance
  read : Output → List Finding

namespace ExternalTool

def probe (tool : ExternalTool) (runner : Runner) : Traced Output :=
  let command := [tool.program, "--version"]
  ⟨[command], runner.run .always command⟩

def run (tool : ExternalTool) (runner : Runner) (files : List String) : Traced (List Finding) :=
  if files.isEmpty then ⟨[], .ok []⟩
  else
    -- The version is asked for, whatever comes of that.
    let probed := tool.probe runner
    let batched := runBatched runner tool.accepts tool.read (tool.program :: tool.arguments) files
    ⟨probed.calls ++ batched.calls, batched.result⟩

end ExternalTool

end LintGate
