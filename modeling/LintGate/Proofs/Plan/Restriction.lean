import LintGate.Proofs.Checker.Whitespace
import LintGate.Proofs.Finding.Name
import LintGate.Proofs.Plan.ExactReport
import LintGate.Proofs.Plan.Source

/-! A run on a change against the full run over the same files. Checkers of whole files see the
same selection in both, and the change only leaves out findings afterwards. The white-space
check gets fewer files and looks at fewer lines, which has to come to the same. -/
namespace LintGate

def PlainFile (ctx : Context) (file : String) : Prop :=
  Path.isAbsolute file = false ∧ Text.startsWith ['.', '/'] file.toList = false ∧
    existsBelow ctx.tree ctx.root file = true

theorem plainName {ctx : Context} {file : String} (plain : PlainFile ctx file) :
    Finding.relativeName ctx.root file = file :=
  Finding.relativeNameSame plain.1 plain.2.1

namespace Whitespace

theorem keepsInFile {ctx : Context} {o : Options} {file : String} {m : Finding}
    (member : m ∈ inFile ctx o none file) (changes : ChangedLines) :
    changes.keeps m.file m.line =
      (changes.lines? file).any (fun lines => m.line.any lines.contains) := by
  obtain ⟨sameFile, located⟩ := inFilePlace member
  obtain ⟨line, onLine⟩ := Option.isSome_iff_exists.mp located
  rw [sameFile, onLine]
  rfl

def hasChanges (changes : ChangedLines) (file : String) : Bool :=
  (changes.lines? file).any (fun lines => !lines.isEmpty)

theorem keptInChanged {changes : ChangedLines} {file : String}
    (changed : hasChanges changes file = true) (ctx : Context) (o : Options) :
    (inFile ctx o (changes.lines? file) file).filter (fun m => changes.keeps m.file m.line) =
      (inFile ctx o none file).filter (fun m => changes.keeps m.file m.line) := by
  cases found : changes.lines? file with
  | none => simp [hasChanges, found] at changed
  | some lines =>
    rw [inFileRestricted, List.filter_filter]
    refine List.filter_congr (fun m member => ?_)
    rw [keepsInFile member, found, Option.any_some, Bool.and_self]

theorem keptInUnchanged {changes : ChangedLines} {file : String}
    (unchanged : hasChanges changes file = false) (ctx : Context) (o : Options) :
    (inFile ctx o none file).filter (fun m => changes.keeps m.file m.line) = [] := by
  refine List.filter_eq_nil_iff.mpr (fun m member => ?_)
  rw [keepsInFile member]
  cases found : changes.lines? file with
  | none => simp
  | some lines =>
    have empty : lines.toList = [] := by
      simpa [hasChanges, found, LineSet.isEmpty] using unchanged
    cases m.line with
    | none => simp
    | some line => simp [LineSet.contains, empty]

/- Leaving out files without changed lines, and lines that did not change, gives what leaving
out findings afterwards gives. -/
theorem keptOfFiles (ctx : Context) (o : Options) (changes : ChangedLines) (files : List String) :
    ((files.filter (hasChanges changes)).flatMap
        (fun file => inFile ctx o (changes.lines? file) file)).filter
          (fun m => changes.keeps m.file m.line) =
      (files.flatMap (inFile ctx o none)).filter (fun m => changes.keeps m.file m.line) := by
  induction files with
  | nil => rfl
  | cons file rest ih =>
    rw [List.flatMap_cons, List.filter_append, ← ih]
    cases changed : hasChanges changes file with
    | true =>
      rw [List.filter_cons_of_pos changed, List.flatMap_cons, List.filter_append,
        keptInChanged changed]
    | false =>
      rw [List.filter_cons_of_neg (by simp [changed]), keptInUnchanged changed, List.nil_append]

end Whitespace

namespace Planned

def Restricts (p : Planned) (ctx : Context) (candidates : List String) (changes : ChangedLines) :
    Prop :=
  (p.execute ctx candidates (some changes)).findings =
      (p.execute ctx candidates none).findings.filter (fun m => changes.keeps m.file m.line) ∧
    (p.execute ctx candidates (some changes)).run.failure =
      (p.execute ctx candidates none).run.failure

theorem keepChangedRestricts (root : String) (changes : ChangedLines) (raw : List Finding) :
    keepChanged root (some changes) raw =
      (keepChanged root none raw).filter (fun m => changes.keeps m.file m.line) := rfl

theorem executeName (p : Planned) (ctx : Context) (candidates : List String)
    (diff : Option ChangedLines) : (p.execute ctx candidates diff).run.name = p.checker.name := by
  rcases p.endings ctx candidates diff with empty | ⟨failure, fails⟩ | ⟨raw, returns⟩
  · rw [(executeSkipped ctx empty).2]
  · rw [(executeFailed fails).2]
  · rw [(executeReturned returns).2]

theorem wholeSelectFiles {p : Planned} (whole : p.checker.mode = .whole) (candidates : List String)
    (diff : Option ChangedLines) : p.selectFiles candidates diff = p.filter.select candidates := by
  simp [selectFiles, whole]

theorem wholeSelection {p : Planned} (whole : p.checker.mode = .whole) (files : List String)
    (diff : Option ChangedLines) : p.selection files diff = .whole files := by
  simp [selection, whole]

theorem wholeRestricts {p : Planned} (whole : p.checker.mode = .whole) (ctx : Context)
    (candidates : List String) (changes : ChangedLines) : p.Restricts ctx candidates changes := by
  have sameFiles : p.selectFiles candidates (some changes) = p.selectFiles candidates none := by
    rw [wholeSelectFiles whole, wholeSelectFiles whole]
  have sameSelection : ∀ files, p.selection files (some changes) = p.selection files none := by
    intro files
    rw [wholeSelection whole, wholeSelection whole]
  rcases p.endings ctx candidates none with empty | ⟨failure, fails⟩ | ⟨raw, returns⟩
  · have also : p.selectFiles candidates (some changes) = [] := sameFiles.trans empty
    simp [Restricts, executeSkipped ctx empty, executeSkipped ctx also]
  · have also : p.Fails ctx candidates (some changes) failure := by
      rwa [failsSelected, sameFiles, sameSelection, ← failsSelected]
    simp [Restricts, executeFailed fails, executeFailed also]
  · have also : p.Returns ctx candidates (some changes) raw := by
      rwa [returnsSelected, sameFiles, sameSelection, ← returnsSelected]
    simp [Restricts, executeReturned returns, executeReturned also, keepChangedRestricts]

section WhitespaceRun

variable {p : Planned} {o : Whitespace.Options} (checker : p.checker = Whitespace.checker)
  (job : p.job = Whitespace.job o)
include checker job

theorem whitespaceExecute {ctx : Context} {candidates : List String} {diff : Option ChangedLines}
    (readable : ∀ file ∈ p.selectFiles candidates diff, Readable ctx file) :
    (p.execute ctx candidates diff).findings =
        keepChanged ctx.root diff ((p.selectFiles candidates diff).flatMap
          (fun file => Whitespace.inFile ctx o (diff.bind (·.lines? file)) file)) ∧
      (p.execute ctx candidates diff).run.failure = none := by
  by_cases empty : p.selectFiles candidates diff = []
  · rw [(executeSkipped ctx empty).1, (executeSkipped ctx empty).2, empty]
    cases diff <;> exact ⟨rfl, rfl⟩
  · have returns : p.Returns ctx candidates diff ((p.selectFiles candidates diff).flatMap
        (fun file => Whitespace.inFile ctx o (diff.bind (·.lines? file)) file)) := by
      refine returnsSelected.mpr ⟨empty, ?_⟩
      rw [job, selection, checker]
      exact Whitespace.checkFilesReadable readable o _
    rw [(executeReturned returns).1, (executeReturned returns).2]
    exact ⟨rfl, rfl⟩

omit job in
theorem whitespaceSelectFiles (candidates : List String) (diff : Option ChangedLines) :
    p.selectFiles candidates diff = match diff with
      | none => p.filter.select candidates
      | some changes => (p.filter.select candidates).filter (Whitespace.hasChanges changes) := by
  cases diff with
  | none => simp [selectFiles]
  | some changes =>
    simp only [selectFiles, checker, Whitespace.checker]
    rfl

theorem whitespaceRestricts {ctx : Context} {candidates : List String}
    (plain : ∀ file ∈ candidates, PlainFile ctx file) (changes : ChangedLines) :
    p.Restricts ctx candidates changes := by
  have readable : ∀ diff, ∀ file ∈ p.selectFiles candidates diff, Readable ctx file :=
    fun diff file selected => existsReadable.mp (plain file (selectedCandidate selected)).2.2
  have names : ∀ (diff : Option ChangedLines),
      ((p.selectFiles candidates diff).flatMap
        (fun file => Whitespace.inFile ctx o (diff.bind (·.lines? file)) file)).map
          (Finding.relativeTo ctx.root) =
      (p.selectFiles candidates diff).flatMap
        (fun file => Whitespace.inFile ctx o (diff.bind (·.lines? file)) file) := by
    intro diff
    refine (List.map_congr_left (fun m member => ?_)).trans (List.map_id _)
    obtain ⟨file, selected, found⟩ := List.mem_flatMap.mp member
    refine Finding.relativeToSame ?_
    rw [(Whitespace.inFilePlace found).1]
    exact plainName (plain file (selectedCandidate selected))
  obtain ⟨changed, noFailure⟩ := whitespaceExecute checker job (readable (some changes))
  obtain ⟨full, alsoNone⟩ := whitespaceExecute checker job (readable none)
  refine ⟨?_, noFailure.trans alsoNone.symm⟩
  rw [changed, full]
  simp only [keepChanged, names]
  simp only [whitespaceSelectFiles checker, Option.bind_some, Option.bind_none]
  exact Whitespace.keptOfFiles ctx o changes _

end WhitespaceRun

end Planned

namespace Plan

theorem builtinRestricts {entries : List Entry} {plan : Plan}
    (valid : Plan.ofEntries .builtin entries = .ok plan) {ctx : Context} {candidates : List String}
    (plain : ∀ file ∈ candidates, PlainFile ctx file) (changes : ChangedLines) :
    ∀ p ∈ plan, p.Restricts ctx candidates changes := by
  intro p planned
  obtain ⟨entry, _, source⟩ := ofEntriesSource valid planned
  obtain ⟨registered, options, configured⟩ := Planned.ofEntrySource source
  rcases Registry.builtinMode registered with whole | whitespace
  · exact Planned.wholeRestricts whole ctx candidates changes
  · rw [whitespace] at configured
    obtain ⟨o, job⟩ := Whitespace.configureSource configured
    exact Planned.whitespaceRestricts whitespace job plain changes

theorem changeRestrictsFullRun (entries : List Entry) (plan : Plan)
    (valid : Plan.ofEntries .builtin entries = .ok plan) (ctx : Context)
    (candidates : List String) (plain : ∀ file ∈ candidates, PlainFile ctx file)
    (changes : ChangedLines) :
    (plan.execute ctx candidates (some changes)).report.findings =
        (plan.execute ctx candidates none).report.findings.filter
          (fun m => changes.keeps m.file m.line) ∧
      (plan.execute ctx candidates (some changes)).report.runs.map (fun r => (r.name, r.failure)) =
        (plan.execute ctx candidates none).report.runs.map (fun r => (r.name, r.failure)) := by
  have each := builtinRestricts valid plain changes
  constructor
  · refine Finding.ascendingUnique (executeAscending plan ctx candidates (some changes))
      ((executeAscending plan ctx candidates none).filter _) (fun m => ?_)
    rw [List.mem_filter, executeFindingsMem, executeFindingsMem]
    constructor
    · rintro ⟨p, planned, found⟩
      rw [(each p planned).1, List.mem_filter] at found
      exact ⟨⟨p, planned, found.1⟩, found.2⟩
    · rintro ⟨⟨p, planned, found⟩, kept⟩
      refine ⟨p, planned, ?_⟩
      rw [(each p planned).1, List.mem_filter]
      exact ⟨found, kept⟩
  · rw [executeRuns, executeRuns, List.map_map, List.map_map]
    refine List.map_congr_left (fun p planned => ?_)
    rw [Function.comp_apply, Function.comp_apply, Planned.executeName, Planned.executeName,
      (each p planned).2]

def twoFlaws : Context := .ofFiles [("a.py", "x = 1 \ny\t\n".toUTF8)]

theorem twoFlawsRestricted :
    ∃ plan, Plan.ofEntries .builtin [⟨"whitespace", []⟩, ⟨"flake8", []⟩] = .ok plan ∧
      (∀ file ∈ ["a.py"], PlainFile twoFlaws file) ∧
      (plan.execute twoFlaws ["a.py"] (some (.ofPairs [("a.py", [2])]))).report.findings =
        (plan.execute twoFlaws ["a.py"] none).report.findings.filter
          (fun m => (ChangedLines.ofPairs [("a.py", [2])]).keeps m.file m.line) ∧
      (plan.execute twoFlaws ["a.py"] (some (.ofPairs [("a.py", [2])]))).report.runs.map
          (fun r => (r.name, r.failure)) =
        (plan.execute twoFlaws ["a.py"] none).report.runs.map (fun r => (r.name, r.failure)) := by
  have plain : ∀ file ∈ ["a.py"], PlainFile twoFlaws file := by
    intro file listed
    rw [List.mem_singleton.mp listed]
    exact ⟨by decide, by decide, by decide⟩
  obtain ⟨plan, valid⟩ : ∃ plan,
      Plan.ofEntries .builtin [⟨"whitespace", []⟩, ⟨"flake8", []⟩] = .ok plan := ⟨_, rfl⟩
  exact ⟨plan, valid, plain, changeRestrictsFullRun _ plan valid twoFlaws _ plain _⟩

end Plan

end LintGate
