import LintGate.Checker.Basic

/-! The outcome of a run over all checkers. -/
namespace LintGate

inductive Stage where
  | pending
  | selectingFiles
  | invoking
  | parsing
  | filtering
  | aggregated
  | failed
deriving DecidableEq, Repr

/-- What is on record about one checker: the files it was given, its findings before and after
those on unchanged lines were left out, and its failure. -/
structure CheckerRun where
  name : String
  mode : Mode
  stage : Stage
  files : Nat
  rawCount : Nat
  kept : Nat
  failure : Option Failure
deriving DecidableEq, Repr

namespace CheckerRun

def hasFailed (run : CheckerRun) : Bool := run.failure.isSome

def skipped (run : CheckerRun) : Bool := run.files == 0 && !run.hasFailed

end CheckerRun

inductive Verdict where
  | clean
  | findingsPresent
  | executionFailed
deriving DecidableEq, Repr

def addCount (name : String) (n : Nat) (counts : List (String × Nat)) : List (String × Nat) :=
  Named.upsert name n (· + n) counts

structure Report where
  findings : List Finding
  rawCounts : List (String × Nat)
  runs : List CheckerRun
  ok : Bool
deriving DecidableEq, Repr

namespace Report

/-- Merges the results of all checkers. Findings are sorted and each one is reported once, so
the order of the results does not show in them. -/
def aggregate (results : List (CheckerRun × List Finding)) : Report :=
  let findings := Finding.dropRepeats (Finding.sort (results.flatMap (·.2)))
  let runs := results.map (·.1)
  { findings := findings
    rawCounts := runs.foldl (fun counts run => addCount run.name run.rawCount counts) []
    runs := runs
    ok := findings.isEmpty && !runs.any (·.hasFailed) }

def failures (r : Report) : List CheckerRun := r.runs.filter (·.hasFailed)

def verdict (r : Report) : Verdict :=
  if r.runs.any (·.hasFailed) then .executionFailed
  else if r.findings.isEmpty then .clean
  else .findingsPresent

end Report

end LintGate
