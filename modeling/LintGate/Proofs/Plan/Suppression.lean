import LintGate.Change.Diff
import LintGate.Proofs.Plan.Restriction

/-! Findings of the white-space check between the check and the report. The check looks changed
lines up under the name of the file that it was given, and the report under the name that the
finding has in the change. Where the two names differ, findings on changed lines can be lost. -/
namespace LintGate

theorem Whitespace.inFileChanged {ctx : Context} {o : Whitespace.Options} {changes : ChangedLines}
    {file : String} (changed : Whitespace.hasChanges changes file = true) {m : Finding} :
    m ∈ Whitespace.inFile ctx o (changes.lines? file) file ↔
      m ∈ Whitespace.inFile ctx o none file ∧
        ∃ line, m.line = some line ∧ changes.contains file line = true := by
  cases found : changes.lines? file with
  | none => simp [Whitespace.hasChanges, found] at changed
  | some lines =>
    rw [Whitespace.inFileRestricted, List.mem_filter]
    refine and_congr_right (fun _ => ?_)
    cases m.line with
    | none => simp
    | some line => simp [ChangedLines.contains, found]

namespace Planned

theorem returnsKeptAll {p : Planned} {ctx candidates changes raw}
    (returns : p.Returns ctx candidates (some changes) raw) :
    (p.execute ctx candidates (some changes)).run.kept =
        (p.execute ctx candidates (some changes)).run.rawCount ↔
      ∀ m ∈ raw, changes.keeps (Finding.relativeName ctx.root m.file) m.line = true := by
  have renamed : raw.length = (raw.map (Finding.relativeTo ctx.root)).length := by simp
  rw [(executeReturned returns).2, keepChanged]
  dsimp only
  rw [renamed, List.length_filter_eq_length_iff]
  simp [Finding.relativeTo]

section WhitespaceRun

variable {p : Planned} {o : Whitespace.Options} (checker : p.checker = Whitespace.checker)
  (job : p.job = Whitespace.job o)
include checker job

theorem whitespaceReturns {ctx : Context} {candidates : List String} {changes : ChangedLines}
    {raw : List Finding} (returns : p.Returns ctx candidates (some changes) raw) :
    raw = (p.selectFiles candidates (some changes)).flatMap
      (fun file => Whitespace.inFile ctx o (changes.lines? file) file) := by
  have result := (returnsSelected.mp returns).2
  rw [job, selection, checker] at result
  exact (checkEachOk.mp result).2

/- A finding is kept when its line is a changed line also of the name it is reported under. -/
theorem whitespaceKeptAll {ctx : Context} {candidates : List String} {changes : ChangedLines}
    (finished : (p.execute ctx candidates (some changes)).run.failure = none) :
    (p.execute ctx candidates (some changes)).run.kept =
        (p.execute ctx candidates (some changes)).run.rawCount ↔
      ∀ file ∈ p.selectFiles candidates (some changes), ∀ m ∈ Whitespace.inFile ctx o none file,
        ∀ line, m.line = some line → changes.contains file line = true →
          changes.contains (Finding.relativeName ctx.root file) line = true := by
  rcases p.endings ctx candidates (some changes) with empty | ⟨failure, fails⟩ | ⟨raw, returns⟩
  · rw [(executeSkipped ctx empty).2, empty]
    simp
  · rw [(executeFailed fails).2] at finished
    cases finished
  rw [returnsKeptAll returns, whitespaceReturns checker job returns]
  have changed : ∀ file ∈ p.selectFiles candidates (some changes),
      Whitespace.hasChanges changes file = true := by
    intro file selected
    rw [whitespaceSelectFiles checker] at selected
    exact (List.mem_filter.mp selected).2
  constructor
  · intro kept file selected m found line onLine isChanged
    have seen : m ∈ Whitespace.inFile ctx o (changes.lines? file) file :=
      (Whitespace.inFileChanged (changed file selected)).mpr ⟨found, line, onLine, isChanged⟩
    have known := kept m (List.mem_flatMap.mpr ⟨file, selected, seen⟩)
    rw [(Whitespace.inFilePlace found).1, onLine] at known
    exact known
  · intro kept m member
    obtain ⟨file, selected, seen⟩ := List.mem_flatMap.mp member
    obtain ⟨found, line, onLine, isChanged⟩ :=
      (Whitespace.inFileChanged (changed file selected)).mp seen
    rw [(Whitespace.inFilePlace found).1, onLine]
    exact kept file selected m found line onLine isChanged

end WhitespaceRun

theorem whitespaceSource {entry : Entry} {p : Planned} (named : entry.name = "whitespace")
    (valid : Planned.ofEntry .builtin entry = .ok p) :
    p.checker = Whitespace.checker ∧ ∃ o, p.job = Whitespace.job o := by
  obtain ⟨registered, options, configured⟩ := ofEntrySource valid
  have known : Registry.builtin.get? "whitespace" = some Whitespace.checker := rfl
  rw [named, known] at registered
  have checker : p.checker = Whitespace.checker := (Option.some.inj registered).symm
  rw [checker] at configured
  exact ⟨checker, Whitespace.configureSource configured⟩

def executeDiff (p : Planned) (ctx : Context) (text : String) : CheckerRun :=
  (p.execute ctx (ChangedLines.ofDiff text).files (some (ChangedLines.ofDiff text))).run

theorem whitespaceKeptExactly (text : String) (ctx : Context) (entry : Entry) (p : Planned)
    (named : entry.name = "whitespace") (valid : Planned.ofEntry .builtin entry = .ok p)
    (finished : (p.executeDiff ctx text).failure = none) :
    ∃ o, p.job = Whitespace.job o ∧
      ((p.executeDiff ctx text).kept = (p.executeDiff ctx text).rawCount ↔
        ∀ file ∈ p.selectFiles (ChangedLines.ofDiff text).files (some (ChangedLines.ofDiff text)),
          ∀ m ∈ Whitespace.inFile ctx o none file, ∀ line, m.line = some line →
            (ChangedLines.ofDiff text).contains file line = true →
              (ChangedLines.ofDiff text).contains (Finding.relativeName ctx.root file) line =
                true) ∧
      ((∀ file ∈ (ChangedLines.ofDiff text).files, Path.isAbsolute file = false ∧
          Text.startsWith ['.', '/'] file.toList = false) →
        (p.executeDiff ctx text).kept = (p.executeDiff ctx text).rawCount) := by
  obtain ⟨checker, o, job⟩ := whitespaceSource named valid
  have kept := whitespaceKeptAll checker job finished
  refine ⟨o, job, kept, fun plain => kept.mpr ?_⟩
  intro file selected m found line onLine isChanged
  obtain ⟨relative, undotted⟩ := plain file (selectedCandidate selected)
  rw [Finding.relativeNameSame relative undotted]
  exact isChanged

set_option maxRecDepth 10000 in
theorem plainNameKept :
    ∃ p, Planned.ofEntry .builtin ⟨"whitespace", []⟩ = .ok p ∧
      (p.executeDiff oneBlank "--- a/a.py\n+++ b/a.py\n@@ -1 +1 @@\n-b\n+b \n").failure = none ∧
      (p.executeDiff oneBlank "--- a/a.py\n+++ b/a.py\n@@ -1 +1 @@\n-b\n+b \n").rawCount = 1 ∧
      (p.executeDiff oneBlank "--- a/a.py\n+++ b/a.py\n@@ -1 +1 @@\n-b\n+b \n").kept = 1 := by
  refine ⟨_, rfl, by decide, by decide, ?_⟩
  obtain ⟨o, _, _, plain⟩ := whitespaceKeptExactly "--- a/a.py\n+++ b/a.py\n@@ -1 +1 @@\n-b\n+b \n"
    oneBlank ⟨"whitespace", []⟩ _ rfl rfl (by decide)
  exact plain (by decide)

set_option maxRecDepth 10000 in
theorem dottedNameLost :
    ∃ p, Planned.ofEntry .builtin ⟨"whitespace", []⟩ = .ok p ∧
      (p.executeDiff oneBlank "--- a.py\n+++ ./a.py\n@@ -1 +1 @@\n-b\n+b \n").failure = none ∧
      (p.executeDiff oneBlank "--- a.py\n+++ ./a.py\n@@ -1 +1 @@\n-b\n+b \n").rawCount = 1 ∧
      (p.executeDiff oneBlank "--- a.py\n+++ ./a.py\n@@ -1 +1 @@\n-b\n+b \n").kept = 0 :=
  ⟨_, rfl, by decide⟩

end Planned

end LintGate
