import LintGate.Plan.Basic
import LintGate.Report.Basic

/-! Running a plan. Each checker selects its files, looks at them and has its findings on
unchanged lines left out. A checker that fails does not disturb the others. -/
namespace LintGate

structure CheckerResult where
  run : CheckerRun
  findings : List Finding
  calls : List Command

namespace Planned

def selectFiles (p : Planned) (candidates : List String) (diff : Option ChangedLines) :
    List String :=
  let accepted := p.filter.select candidates
  match p.checker.mode, diff with
  | .diffAware, some changes =>
    accepted.filter (fun file => (changes.lines? file).any (fun lines => !lines.isEmpty))
  | _, _ => accepted

def selection (p : Planned) (files : List String) (diff : Option ChangedLines) : Selection :=
  match p.checker.mode with
  | .whole => .whole files
  | .diffAware => .changed files diff

def keepChanged (root : String) (diff : Option ChangedLines) (raw : List Finding) :
    List Finding :=
  let named := raw.map (Finding.relativeTo root)
  match diff with
  | none => named
  | some changes => named.filter (fun f => changes.keeps f.file f.line)

def execute (p : Planned) (ctx : Context) (candidates : List String)
    (diff : Option ChangedLines) : CheckerResult :=
  let files := p.selectFiles candidates diff
  let record : CheckerRun :=
    { name := p.checker.name, mode := p.checker.mode, stage := .aggregated
      files := files.length, rawCount := 0, kept := 0, failure := none }
  if files.isEmpty then ⟨record, [], []⟩
  else
    let traced := p.job ctx (p.selection files diff)
    match traced.result with
    | .error failure =>
      ⟨{ record with stage := .failed, failure := some failure }, [], traced.calls⟩
    | .ok raw =>
      let kept := keepChanged ctx.root diff raw
      ⟨{ record with rawCount := raw.length, kept := kept.length }, kept, traced.calls⟩

end Planned

structure PlanResult where
  report : Report
  calls : List Command

def Plan.execute (plan : Plan) (ctx : Context) (candidates : List String)
    (diff : Option ChangedLines) : PlanResult :=
  let results := plan.map (fun p => p.execute ctx candidates diff)
  ⟨Report.aggregate (results.map (fun r => (r.run, r.findings))), results.flatMap (·.calls)⟩

end LintGate
