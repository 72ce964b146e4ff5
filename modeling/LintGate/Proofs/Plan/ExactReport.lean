import LintGate.Plan.Run
import LintGate.Proofs.Change.Index
import LintGate.Proofs.Finding.Order

/-! What a run reports. A checker of the plan ends in one of three ways: it has no files, it
fails, or it returns raw findings. The findings of a report are those of the last kind under
their names in the change, without the ones on unchanged lines, each once and in order. -/
namespace LintGate

/- Whether a finding stays: there is no change to compare with, it has no line, or its line was
changed. The file is the one that the finding names. -/
def OnChange (diff : Option ChangedLines) (m : Finding) : Prop :=
  diff = none ∨ m.line = none ∨
    ∃ changes line, diff = some changes ∧ m.line = some line ∧ changes.contains m.file line = true

@[simp] theorem onChangeNone (m : Finding) : OnChange none m := Or.inl rfl

@[simp] theorem onChangeSome (changes : ChangedLines) (m : Finding) :
    OnChange (some changes) m ↔ changes.keeps m.file m.line = true := by
  cases h : m.line with
  | none => simp [OnChange, h, ChangedLines.keeps]
  | some line => simp [OnChange, h, ChangedLines.keeps]

theorem ChangedLines.someLine {c : ChangedLines} {file : String} :
    (c.lines? file).any (fun lines => !lines.isEmpty) = true ↔
      ∃ line, c.contains file line = true := by
  cases found : c.lines? file with
  | none => simp [contains, found]
  | some lines =>
    simp only [contains, found, Option.any_some, LineSet.containsIff, Bool.not_eq_true',
      LineSet.isEmpty, List.isEmpty_eq_false_iff]
    constructor
    · exact List.exists_mem_of_ne_nil _
    · rintro ⟨line, inside⟩
      exact List.ne_nil_of_mem inside

namespace Planned

/- The files that a checker has to look at. With a change, a checker of changed lines passes over
files that have none. -/
def LooksAt (p : Planned) (diff : Option ChangedLines) (file : String) : Prop :=
  p.filter.accepts file = true ∧
    ∀ changes, p.checker.mode = .diffAware → diff = some changes →
      ∃ line, changes.contains file line = true

instance (p : Planned) (diff : Option ChangedLines) (file : String) :
    Decidable (p.LooksAt diff file) :=
  match mode : p.checker.mode, diff with
  | .whole, _ => decidable_of_iff (p.filter.accepts file = true) (by simp [LooksAt, mode])
  | .diffAware, none => decidable_of_iff (p.filter.accepts file = true) (by simp [LooksAt])
  | .diffAware, some changes =>
    decidable_of_iff (p.filter.accepts file = true ∧
      (changes.lines? file).any (fun lines => !lines.isEmpty) = true)
      (by simp [LooksAt, mode, ← ChangedLines.someLine])

theorem selectFilesLooksAt (p : Planned) (candidates : List String) (diff : Option ChangedLines) :
    p.selectFiles candidates diff = candidates.filter (p.LooksAt diff ·) := by
  cases mode : p.checker.mode with
  | whole => simp [selectFiles, mode, LooksAt, FileFilter.select]
  | diffAware =>
    cases diff with
    | none => simp [selectFiles, LooksAt, FileFilter.select]
    | some changes =>
      simp [selectFiles, mode, LooksAt, FileFilter.select, ← ChangedLines.someLine,
        List.filter_filter, Bool.and_comm]

def Returns (p : Planned) (ctx : Context) (candidates : List String) (diff : Option ChangedLines)
    (raw : List Finding) : Prop :=
  candidates.filter (p.LooksAt diff ·) ≠ [] ∧
    (p.job ctx (p.selection (candidates.filter (p.LooksAt diff ·)) diff)).result = .ok raw

def Fails (p : Planned) (ctx : Context) (candidates : List String) (diff : Option ChangedLines)
    (failure : Failure) : Prop :=
  candidates.filter (p.LooksAt diff ·) ≠ [] ∧
    (p.job ctx (p.selection (candidates.filter (p.LooksAt diff ·)) diff)).result = .error failure

section Selected

variable {p : Planned} {ctx : Context} {candidates : List String} {diff : Option ChangedLines}

theorem selectedCandidate {file : String} (selected : file ∈ p.selectFiles candidates diff) :
    file ∈ candidates := by
  rw [selectFilesLooksAt] at selected
  exact (List.mem_filter.mp selected).1

theorem returnsSelected {raw : List Finding} :
    p.Returns ctx candidates diff raw ↔ p.selectFiles candidates diff ≠ [] ∧
      (p.job ctx (p.selection (p.selectFiles candidates diff) diff)).result = .ok raw := by
  rw [Returns, selectFilesLooksAt]

theorem failsSelected {failure : Failure} :
    p.Fails ctx candidates diff failure ↔ p.selectFiles candidates diff ≠ [] ∧
      (p.job ctx (p.selection (p.selectFiles candidates diff) diff)).result = .error failure := by
  rw [Fails, selectFilesLooksAt]

end Selected

theorem endings (p : Planned) (ctx : Context) (candidates : List String)
    (diff : Option ChangedLines) :
    p.selectFiles candidates diff = [] ∨ (∃ failure, p.Fails ctx candidates diff failure) ∨
      ∃ raw, p.Returns ctx candidates diff raw := by
  by_cases empty : p.selectFiles candidates diff = []
  · exact Or.inl empty
  cases result : (p.job ctx (p.selection (p.selectFiles candidates diff) diff)).result with
  | error failure => exact Or.inr (Or.inl ⟨failure, failsSelected.mpr ⟨empty, result⟩⟩)
  | ok raw => exact Or.inr (Or.inr ⟨raw, returnsSelected.mpr ⟨empty, result⟩⟩)

theorem returnsUnique {p : Planned} {ctx candidates diff raw other}
    (left : p.Returns ctx candidates diff raw) (right : p.Returns ctx candidates diff other) :
    raw = other := Except.ok.inj (left.2.symm.trans right.2)

theorem failsNeverReturns {p : Planned} {ctx candidates diff failure raw}
    (fails : p.Fails ctx candidates diff failure) : ¬ p.Returns ctx candidates diff raw := by
  intro returns
  have clash := fails.2.symm.trans returns.2
  cases clash

theorem executeSkipped {p : Planned} {candidates diff} (ctx : Context)
    (empty : p.selectFiles candidates diff = []) :
    (p.execute ctx candidates diff).findings = [] ∧
      (p.execute ctx candidates diff).run =
        ⟨p.checker.name, p.checker.mode, .aggregated, 0, 0, 0, none⟩ := by
  simp [execute, empty]

theorem executeFailed {p : Planned} {ctx candidates diff failure}
    (fails : p.Fails ctx candidates diff failure) :
    (p.execute ctx candidates diff).findings = [] ∧
      (p.execute ctx candidates diff).run =
        ⟨p.checker.name, p.checker.mode, .failed, (p.selectFiles candidates diff).length, 0, 0,
          some failure⟩ := by
  obtain ⟨files, result⟩ := failsSelected.mp fails
  simp [execute, files, result]

theorem executeReturned {p : Planned} {ctx candidates diff raw}
    (returns : p.Returns ctx candidates diff raw) :
    (p.execute ctx candidates diff).findings = keepChanged ctx.root diff raw ∧
      (p.execute ctx candidates diff).run =
        ⟨p.checker.name, p.checker.mode, .aggregated, (p.selectFiles candidates diff).length,
          raw.length, (keepChanged ctx.root diff raw).length, none⟩ := by
  obtain ⟨files, result⟩ := returnsSelected.mp returns
  simp [execute, files, result]

theorem keepChangedMem {root : String} {diff : Option ChangedLines} {raw : List Finding}
    {m : Finding} :
    m ∈ keepChanged root diff raw ↔ ∃ r ∈ raw, r.relativeTo root = m ∧ OnChange diff m := by
  cases diff with
  | none => simp [keepChanged]
  | some changes =>
    simp only [keepChanged, List.mem_filter, List.mem_map, onChangeSome]
    constructor
    · rintro ⟨⟨r, member, named⟩, kept⟩
      exact ⟨r, member, named, kept⟩
    · rintro ⟨r, member, named, kept⟩
      exact ⟨⟨r, member, named⟩, kept⟩

@[simp] theorem executeMem {p : Planned} {ctx candidates diff} {m : Finding} :
    m ∈ (p.execute ctx candidates diff).findings ↔
      ∃ raw, p.Returns ctx candidates diff raw ∧
        ∃ r ∈ raw, r.relativeTo ctx.root = m ∧ OnChange diff m := by
  rcases p.endings ctx candidates diff with empty | ⟨failure, fails⟩ | ⟨raw, returns⟩
  · rw [(executeSkipped ctx empty).1]
    constructor
    · intro member
      exact absurd member List.not_mem_nil
    · rintro ⟨raw, returns, _⟩
      exact absurd empty (returnsSelected.mp returns).1
  · rw [(executeFailed fails).1]
    constructor
    · intro member
      exact absurd member List.not_mem_nil
    · rintro ⟨raw, returns, _⟩
      exact absurd returns (failsNeverReturns fails)
  · rw [(executeReturned returns).1, keepChangedMem]
    constructor
    · intro kept
      exact ⟨raw, returns, kept⟩
    · rintro ⟨other, again, kept⟩
      rwa [returnsUnique returns again]

end Planned

namespace Plan

theorem executeFindings (plan : Plan) (ctx : Context) (candidates : List String)
    (diff : Option ChangedLines) :
    (plan.execute ctx candidates diff).report.findings =
      Finding.dropRepeats (Finding.sort
        (plan.flatMap (fun p => (p.execute ctx candidates diff).findings))) := by
  simp only [execute, Report.aggregate, List.flatMap_map, List.map_map]
  rfl

theorem executeRuns (plan : Plan) (ctx : Context) (candidates : List String)
    (diff : Option ChangedLines) :
    (plan.execute ctx candidates diff).report.runs =
      plan.map (fun p => (p.execute ctx candidates diff).run) := by
  simp only [execute, Report.aggregate, List.map_map]
  rfl

theorem executeReport (plan : Plan) (ctx : Context) (candidates : List String)
    (diff : Option ChangedLines) :
    (plan.execute ctx candidates diff).report = Report.aggregate (plan.map (fun p =>
      ((p.execute ctx candidates diff).run, (p.execute ctx candidates diff).findings))) := by
  rw [execute, List.map_map]
  rfl

theorem executeAscending (plan : Plan) (ctx : Context) (candidates : List String)
    (diff : Option ChangedLines) :
    (plan.execute ctx candidates diff).report.findings.Pairwise Finding.Before := by
  rw [executeFindings]
  exact Finding.mergedAscending _

@[simp] theorem executeFindingsMem {plan : Plan} {ctx candidates diff} {m : Finding} :
    m ∈ (plan.execute ctx candidates diff).report.findings ↔
      ∃ p ∈ plan, m ∈ (p.execute ctx candidates diff).findings := by
  rw [executeFindings, Finding.mergedMem, List.mem_flatMap]

theorem executeWithoutFailed {before after : Plan} {p : Planned} {ctx candidates diff failure}
    (fails : p.Fails ctx candidates diff failure) :
    (Plan.execute (before ++ p :: after) ctx candidates diff).report.findings =
      (Plan.execute (before ++ after) ctx candidates diff).report.findings := by
  simp only [executeFindings, List.flatMap_append, List.flatMap_cons,
    (Planned.executeFailed fails).1, List.nil_append]

theorem reportExact (plan : Plan) (ctx : Context) (candidates : List String)
    (diff : Option ChangedLines) :
    let findings := (plan.execute ctx candidates diff).report.findings
    findings.Pairwise Finding.Before ∧ findings.Nodup ∧
    (∀ m, m ∈ findings ↔ ∃ p ∈ plan, ∃ raw, p.Returns ctx candidates diff raw ∧
      ∃ r ∈ raw, r.relativeTo ctx.root = m ∧ OnChange diff m) ∧
    (∀ changes, diff = some changes → ∀ m ∈ findings, ∀ line, m.line = some line →
      changes.contains m.file line = true) ∧
    (∀ p ∈ plan, ∀ raw, p.Returns ctx candidates diff raw → ∀ r ∈ raw, r.line = none →
      r.relativeTo ctx.root ∈ findings) ∧
    (∀ before p after failure, plan = before ++ p :: after → p.Fails ctx candidates diff failure →
      findings = (Plan.execute (before ++ after) ctx candidates diff).report.findings) := by
  intro findings
  have ascending : findings.Pairwise Finding.Before := executeAscending plan ctx candidates diff
  have known : ∀ m, m ∈ findings ↔ ∃ p ∈ plan, ∃ raw, p.Returns ctx candidates diff raw ∧
      ∃ r ∈ raw, r.relativeTo ctx.root = m ∧ OnChange diff m := by
    intro m
    simp [findings]
  refine ⟨ascending, Finding.ascendingNodup ascending, known, ?_, ?_, ?_⟩
  · rintro changes rfl m member line located
    obtain ⟨_, _, _, _, _, _, _, kept⟩ := (known m).mp member
    rw [onChangeSome, located] at kept
    exact kept
  · intro p planned raw returns r member unlocated
    exact (known _).mpr ⟨p, planned, raw, returns, r, member, rfl, Or.inr (Or.inl unlocated)⟩
  · rintro before p after failure rfl fails
    exact executeWithoutFailed fails

end Plan

end LintGate
