import LintGate.Proofs.Checker.Reading
import LintGate.Proofs.Plan.ExactReport
import LintGate.Proofs.Plan.Source
import LintGate.Proofs.Report.Aggregate
import Mathlib.Data.List.Perm.Basic

/-! Checkers do not disturb each other. The record of an entry is what its own checker does, the
report of two lists of entries is the merge of their reports, and a checker that fails takes
nothing away from the others. -/
namespace LintGate

namespace Planned

def recordOf? (registry : Registry) (ctx : Context) (candidates : List String)
    (diff : Option ChangedLines) (entry : Entry) : Option CheckerRun :=
  (ofEntry registry entry).toOption.map (fun p => (p.execute ctx candidates diff).run)

theorem failsOfRecord {p : Planned} {ctx candidates diff failure}
    (failed : (p.execute ctx candidates diff).run.failure = some failure) :
    p.Fails ctx candidates diff failure := by
  rcases p.endings ctx candidates diff with empty | ⟨cause, fails⟩ | ⟨raw, returns⟩
  · rw [(executeSkipped ctx empty).2] at failed
    cases failed
  · rw [(executeFailed fails).2] at failed
    cases failed
    exact fails
  · rw [(executeReturned returns).2] at failed
    cases failed

end Planned

namespace Plan

variable {registry : Registry} {xs ys : List Entry} {p q : Plan}

theorem ofEntriesAppend (left : ofEntries registry xs = .ok p)
    (right : ofEntries registry ys = .ok q) :
    ofEntries registry (xs ++ ys) = .ok (p ++ q) :=
  mapMEach.mpr (List.rel_append (mapMEach.mp left) (mapMEach.mp right))

theorem ofEntriesCons {entry : Entry} {first : Planned}
    (head : Planned.ofEntry registry entry = .ok first) (right : ofEntries registry ys = .ok q) :
    ofEntries registry (entry :: ys) = .ok (first :: q) :=
  mapMEach.mpr (.cons head (mapMEach.mp right))

theorem ofEntriesOrder (valid : ofEntries registry xs = .ok p) (order : xs.Perm ys) :
    ∃ other, ofEntries registry ys = .ok other ∧ other.Perm p := by
  obtain ⟨other, each, same⟩ := List.perm_comp_forall₂ order.symm (mapMEach.mp valid)
  exact ⟨other, mapMEach.mpr each, same⟩

section Execute

variable (ctx : Context) (candidates : List String) (diff : Option ChangedLines)

theorem executeAppend (p q : Plan) :
    Report.MergeOf (p.execute ctx candidates diff).report (q.execute ctx candidates diff).report
      (execute (p ++ q) ctx candidates diff).report := by
  rw [executeReport, executeReport, executeReport, List.map_append]
  exact Report.aggregateAppend _ _

theorem executeOrder (order : p.Perm q) :
    (p.execute ctx candidates diff).report.SameUpToOrder
      (q.execute ctx candidates diff).report := by
  rw [executeReport, executeReport]
  exact Report.aggregateOrder (order.map _)

theorem executeRecords (valid : ofEntries registry xs = .ok p) :
    (p.execute ctx candidates diff).report.runs.map some =
      xs.map (Planned.recordOf? registry ctx candidates diff) := by
  rw [executeRuns, List.map_map]
  have each := mapMEach.mp valid
  clear valid
  induction each with
  | nil => rfl
  | cons first rest ih =>
    rw [List.map_cons, List.map_cons, ih, Planned.recordOf?, first]
    rfl

variable {ctx candidates diff} in
theorem executeFailing {failing : Planned} {failure : Failure}
    (failed : (failing.execute ctx candidates diff).run.failure = some failure) :
    (execute (p ++ failing :: q) ctx candidates diff).report.ok = false := by
  rw [executeReport, Report.aggregateOk, List.all_eq_false]
  refine ⟨_, List.mem_map_of_mem (List.mem_append_right p List.mem_cons_self), ?_⟩
  simp [CheckerRun.hasFailed, failed]

end Execute

theorem checkersIsolated (registry : Registry) (ctx : Context) (candidates : List String)
    (diff : Option ChangedLines) (xs ys : List Entry) (p q : Plan)
    (left : ofEntries registry xs = .ok p) (right : ofEntries registry ys = .ok q) :
    let report (plan : Plan) := (plan.execute ctx candidates diff).report
    (ofEntries registry (xs ++ ys) = .ok (p ++ q) ∧
      ∀ t, Report.MergeOf (report p) (report q) t ↔ t = report (p ++ q)) ∧
    (∀ order, xs.Perm order → ∃ other, ofEntries registry order = .ok other ∧
      (report other).SameUpToOrder (report p) ∧
      (report other).runs.map some = order.map (Planned.recordOf? registry ctx candidates diff)) ∧
    (∀ entry failing failure, Planned.ofEntry registry entry = .ok failing →
      (failing.execute ctx candidates diff).run.failure = some failure →
      ofEntries registry (xs ++ entry :: ys) = .ok (p ++ failing :: q) ∧
      (report (p ++ failing :: q)).findings = (report (p ++ q)).findings ∧
      (report (p ++ failing :: q)).runs =
        (report p).runs ++ (failing.execute ctx candidates diff).run :: (report q).runs ∧
      (report (p ++ q)).runs = (report p).runs ++ (report q).runs ∧
      (report (p ++ failing :: q)).ok = false) := by
  intro report
  have merged : Report.MergeOf (report p) (report q) (report (p ++ q)) :=
    executeAppend ctx candidates diff p q
  refine ⟨⟨ofEntriesAppend left right, fun t => ⟨fun also => Report.mergeUnique also merged, ?_⟩⟩,
    ?_, ?_⟩
  · rintro rfl
    exact merged
  · intro order rearranged
    obtain ⟨other, valid, same⟩ := ofEntriesOrder left rearranged
    exact ⟨other, valid, executeOrder ctx candidates diff same,
      executeRecords ctx candidates diff valid⟩
  · intro entry failing failure planned failed
    have runs : ∀ plan : Plan, (report plan).runs =
        plan.map (fun p => (p.execute ctx candidates diff).run) :=
      fun plan => executeRuns plan ctx candidates diff
    refine ⟨ofEntriesAppend left (ofEntriesCons planned right),
      executeWithoutFailed (Planned.failsOfRecord failed), ?_, ?_, executeFailing failed⟩
    · rw [runs, runs, runs, List.map_append, List.map_cons]
    · rw [runs, runs, runs, List.map_append]

def noTemplate : Failure :=
  .io "cannot read header template ./HEADER: No such file or directory (os error 2)"

theorem repeatedCheckerIsolated :
    ∃ p failing, ofEntries .builtin [⟨"whitespace", []⟩] = .ok p ∧
      Planned.ofEntry .builtin ⟨"header", []⟩ = .ok failing ∧
      (failing.execute oneBlank ["a.py"] none).run.failure = some noTemplate ∧
      (∀ t, Report.MergeOf (p.execute oneBlank ["a.py"] none).report
        (p.execute oneBlank ["a.py"] none).report t ↔
          t = (execute (p ++ p) oneBlank ["a.py"] none).report) ∧
      (execute (p ++ p) oneBlank ["a.py"] none).report.rawCounts = [("whitespace", 2)] ∧
      (execute (p ++ failing :: p) oneBlank ["a.py"] none).report.findings =
        (execute (p ++ p) oneBlank ["a.py"] none).report.findings ∧
      (execute (p ++ failing :: p) oneBlank ["a.py"] none).report.ok = false := by
  obtain ⟨p, valid, counts⟩ : ∃ p, ofEntries .builtin [⟨"whitespace", []⟩] = .ok p ∧
      (execute (p ++ p) oneBlank ["a.py"] none).report.rawCounts = [("whitespace", 2)] :=
    ⟨_, rfl, by decide +kernel⟩
  obtain ⟨failing, header, failed⟩ : ∃ failing,
      Planned.ofEntry .builtin ⟨"header", []⟩ = .ok failing ∧
        (failing.execute oneBlank ["a.py"] none).run.failure = some noTemplate :=
    ⟨_, rfl, by decide +kernel⟩
  obtain ⟨⟨_, merged⟩, _, inserted⟩ := checkersIsolated .builtin oneBlank ["a.py"] none
    [⟨"whitespace", []⟩] [⟨"whitespace", []⟩] p p valid valid
  obtain ⟨_, findings, _, _, noted⟩ := inserted ⟨"header", []⟩ failing noTemplate header failed
  exact ⟨p, failing, valid, header, failed, merged, counts, findings, noted⟩

end Plan

end LintGate
