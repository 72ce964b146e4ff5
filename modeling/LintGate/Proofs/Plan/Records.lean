import LintGate.Proofs.Plan.ExactReport
import LintGate.Proofs.Report.Aggregate
import Mathlib.Data.List.Perm.Subperm

/-! The records of a run. Whichever way a checker ends, its record counts the files it had to look
at and what it found in them, and the counts of the records bear out what the report says as a
whole: its totals, whether anything was found, and whether the run went well. -/
namespace LintGate

namespace Planned

structure Accounts (p : Planned) (candidates : List String) (diff : Option ChangedLines)
    (result : CheckerResult) : Prop where
  name : result.run.name = p.checker.name
  mode : result.run.mode = p.checker.mode
  ended : result.run.stage = .aggregated ∨ result.run.stage = .failed
  failed : result.run.stage = .failed ↔ ∃ failure, result.run.failure = some failure
  failedFoundNothing : result.run.stage = .failed → result.run.rawCount = 0 ∧ result.run.kept = 0
  files : result.run.files = candidates.countP (p.LooksAt diff ·)
  skipped : result.run.files = 0 → result.run.stage = .aggregated ∧ result.run.failure = none ∧
    result.run.rawCount = 0 ∧ result.run.kept = 0 ∧ result.calls = []
  found : result.run.kept = result.findings.length
  kept : result.run.kept ≤ result.run.rawCount
  keptAll : diff = none → result.run.kept = result.run.rawCount

theorem keepAllLength (root : String) (raw : List Finding) :
    (keepChanged root none raw).length = raw.length := List.length_map _

theorem keepChangedLength (root : String) (diff : Option ChangedLines) (raw : List Finding) :
    (keepChanged root diff raw).length ≤ raw.length := by
  cases diff with
  | none => exact (keepAllLength root raw).le
  | some changes => exact (List.length_filter_le _ _).trans (List.length_map _).le

theorem skippedCalls {p : Planned} {candidates diff} (ctx : Context)
    (empty : p.selectFiles candidates diff = []) : (p.execute ctx candidates diff).calls = [] := by
  simp [execute, empty]

theorem executeAccounts (p : Planned) (ctx : Context) (candidates : List String)
    (diff : Option ChangedLines) :
    p.Accounts candidates diff (p.execute ctx candidates diff) := by
  have counted : candidates.countP (p.LooksAt diff ·) = (p.selectFiles candidates diff).length := by
    rw [selectFilesLooksAt, List.countP_eq_length_filter]
  -- The record is filled in on three ways out, and only the last one has counts in it.
  rcases p.endings ctx candidates diff with empty | ⟨failure, fails⟩ | ⟨raw, returns⟩
  · obtain ⟨findings, run⟩ := executeSkipped ctx empty
    have calls := skippedCalls ctx empty
    rw [empty] at counted
    constructor <;> simp [run, findings, calls, counted]
  · obtain ⟨findings, run⟩ := executeFailed fails
    have files := (failsSelected.mp fails).1
    constructor <;> simp [run, findings, counted, files]
  · obtain ⟨findings, run⟩ := executeReturned returns
    have files := (returnsSelected.mp returns).1
    have fewer := keepChangedLength ctx.root diff raw
    -- Without a change `diff` is replaced in what was kept, and the run must not be taken along.
    generalize p.execute ctx candidates diff = result at run findings ⊢
    constructor <;> simp +contextual [run, findings, counted, files, fewer, keepAllLength]

end Planned

namespace Report

structure Balanced (r : Report) : Prop where
  names : Named.Ascending r.rawCounts
  rawCounts : ∀ name n, (name, n) ∈ r.rawCounts ↔ (∃ run ∈ r.runs, run.name = name) ∧
    n = ((r.runs.filter (·.name = name)).map (·.rawCount)).sum
  findings : r.findings.length ≤ (r.runs.map (·.kept)).sum
  nothing : r.findings = [] ↔ ∀ run ∈ r.runs, run.kept = 0
  ok : r.ok = true ↔ ∀ run ∈ r.runs, run.kept = 0 ∧ run.failure = none

variable {results : List (CheckerRun × List Finding)}

theorem aggregateLength (results : List (CheckerRun × List Finding)) :
    (aggregate results).findings.length ≤ (results.map (·.2.length)).sum := by
  have distinct : (aggregate results).findings.Nodup :=
    Finding.ascendingNodup (Finding.mergedAscending _)
  have inside : (aggregate results).findings ⊆ results.flatMap (·.2) :=
    fun m found => Finding.mergedMem.mp found
  rw [← List.length_flatMap]
  exact (distinct.subperm inside).length_le

theorem aggregateBalanced (kept : ∀ r ∈ results, r.1.kept = r.2.length) :
    (aggregate results).Balanced := by
  have empty : ∀ r ∈ results, r.2 = [] ↔ r.1.kept = 0 := by
    intro r inside
    rw [kept r inside, List.length_eq_zero_iff]
  refine ⟨aggregateAscending _, ?_, ?_, ?_, ?_⟩
  · intro name n
    rw [← Named.lookupMem (aggregateAscending _), aggregateLookup]
    exact totalSome
  · refine (aggregateLength results).trans (le_of_eq ?_)
    rw [aggregate, List.map_map]
    exact congrArg List.sum (List.map_congr_left (fun r inside => (kept r inside).symm))
  · rw [aggregateEmpty]
    simp only [aggregate, List.forall_mem_map]
    exact forall₂_congr empty
  · rw [aggregateOk, List.all_eq_true]
    simp only [aggregate, List.forall_mem_map, Bool.and_eq_true, List.isEmpty_iff,
      CheckerRun.hasFailed, Bool.not_eq_true', Option.isSome_eq_false_iff,
      Option.isNone_iff_eq_none]
    exact forall₂_congr (fun r inside => and_congr_left' (empty r inside))

end Report

namespace Plan

theorem executeBalanced (plan : Plan) (ctx : Context) (candidates : List String)
    (diff : Option ChangedLines) : (plan.execute ctx candidates diff).report.Balanced := by
  rw [executeReport]
  refine Report.aggregateBalanced (List.forall_mem_map.mpr (fun p _ => ?_))
  exact (p.executeAccounts ctx candidates diff).found

theorem recordsConsistent (plan : Plan) (ctx : Context) (candidates : List String)
    (diff : Option ChangedLines) :
    let result := plan.execute ctx candidates diff
    result.report.runs = plan.map (fun p => (p.execute ctx candidates diff).run) ∧
    result.calls = plan.flatMap (fun p => (p.execute ctx candidates diff).calls) ∧
    (∀ p ∈ plan, p.Accounts candidates diff (p.execute ctx candidates diff)) ∧
    result.report.Balanced := by
  intro result
  refine ⟨executeRuns plan ctx candidates diff, List.flatMap_map _ _ _, ?_,
    executeBalanced plan ctx candidates diff⟩
  intro p _
  exact p.executeAccounts ctx candidates diff

end Plan

end LintGate
