import LintGate.Program.Basic
import LintGate.Proofs.Except
import LintGate.Proofs.Report.Shown

/-! How the program ends. It goes through three layers, the configuration, the source of the change
and the checkers, and a layer that fails keeps all later ones from doing anything. Only the last
one writes a report, and the exit code then says what the report says. -/
namespace LintGate

namespace Program

inductive Refused (world : World) (options : RunOptions) : Prop where
  | settings {error}
      (unresolved : Settings.resolve world.tree options.overrides = .error error)
  | entries {settings error}
      (resolved : Settings.resolve world.tree options.overrides = .ok settings)
      (unplanned : Plan.ofEntries .builtin settings.entries = .error error)

structure Accepted (world : World) (options : RunOptions) (settings : Settings) (plan : Plan) :
    Prop where
  resolved : Settings.resolve world.tree options.overrides = .ok settings
  planned : Plan.ofEntries .builtin settings.entries = .ok plan

theorem refusedOrAccepted (world : World) (options : RunOptions) :
    Refused world options ∨ ∃ settings plan, Accepted world options settings plan := by
  cases resolved : Settings.resolve world.tree options.overrides with
  | error error => exact Or.inl (.settings resolved)
  | ok settings =>
    cases planned : Plan.ofEntries .builtin settings.entries with
    | error error => exact Or.inl (.entries resolved planned)
    | ok plan => exact Or.inr ⟨settings, plan, resolved, planned⟩

theorem runRefused {world : World} {options : RunOptions} (refused : Refused world options) :
    ∃ error, run world options = fail world "" [] (.setup error) := by
  cases refused with
  | @settings error unresolved =>
    exact ⟨error, by simp [run, prepare, unresolved]⟩
  | @entries settings error resolved unplanned =>
    exact ⟨error, by simp [run, prepare, resolved, unplanned]⟩

theorem runAccepted {world : World} {options : RunOptions} {settings : Settings} {plan : Plan}
    (accepted : Accepted world options settings plan) :
    run world options = execute world options settings plan := by
  simp [run, prepare, accepted.resolved, accepted.planned]

/- The change that a run is about, if there is one, and the files it may look at. They come from
the one source that the options name, and at most one command is run to find them. -/
def supply (world : World) (options : RunOptions) (settings : Settings) :
    Traced (Option ChangedLines × List String) :=
  let runner := world.launch settings.root settings.timeout
  match options.refspec, options.diffFile with
  | some refspec, _ =>
    ⟨[diffCommand refspec], (changedSince runner world.tree settings.root refspec).result.map
      (fun changes => (some changes, changes.files))⟩
  | none, some source =>
    ⟨[], (changedInDiff world.tree world.input settings.root source).map
      (fun changes => (some changes, changes.files))⟩
  | none, none =>
    ⟨[listCommand], (trackedFiles runner world.tree settings.root).result.map
      (fun names => (none, names))⟩

theorem supplyCalls (world : World) (options : RunOptions) (settings : Settings) :
    ∀ command ∈ (supply world options settings).calls, command.head? = some "git" := by
  unfold supply
  split <;> simp [diffCommand, listCommand]

theorem executeSupply (world : World) (options : RunOptions) (settings : Settings) (plan : Plan) :
    execute world options settings plan =
      match (supply world options settings).result with
      | .error failure => fail world (notes world settings) (supply world options settings).calls
          (.execution failure)
      | .ok (diff, names) =>
        let result := plan.execute
          ⟨settings.root, world.tree, world.launch settings.root settings.timeout⟩ names diff
        ⟨if result.report.ok then 0 else 1,
          reportText world.coloured settings.output result.report ++ "\n", notes world settings,
          (supply world options settings).calls ++ result.calls⟩ := by
  let runner := world.launch settings.root settings.timeout
  have listed : (trackedFiles runner world.tree settings.root).calls = [listCommand] := rfl
  have compared : ∀ refspec, (changedSince runner world.tree settings.root refspec).calls =
      [diffCommand refspec] := fun _ => rfl
  unfold execute supply changes
  rcases options.refspec with _ | refspec
  · rcases options.diffFile with _ | source
    · cases tracked : (trackedFiles runner world.tree settings.root).result <;>
        simp [runner, candidates, tracked, listed]
    · cases read : changedInDiff world.tree world.input settings.root source <;>
        simp [candidates, read]
  · cases changed : (changedSince runner world.tree settings.root refspec).result <;>
      simp [runner, candidates, changed, compared]

/- An exit code and a printed text that say what the report says, as a whole and item by item. -/
structure Agrees (coloured : Bool) (format : OutputFormat) (report : Report) (exit : Nat)
    (stdout : String) : Prop where
  ok : exit = if report.ok then 0 else 1
  clean : exit = 0 ↔ report.verdict = .clean
  failed : exit = 1 → (report.verdict = .executionFailed ↔
    ∃ run ∈ report.runs, run.hasFailed = true)
  found : exit = 1 → (report.verdict = .findingsPresent ↔
    ∀ run ∈ report.runs, run.hasFailed = false)
  footer : ∀ v, report.footer = Verdict.footer v ↔ report.verdict = v
  jsonOk : report.jsonField? "ok" = some (.bool (exit = 0))
  jsonVerdict : ∀ v, report.jsonField? "verdict" = some (.text v.word) ↔ report.verdict = v
  human : format = .human → stdout = report.human coloured ++ "\n"
  json : format = .json → stdout = report.toJson.pretty ++ "\n"
  shows : report.Shows coloured format stdout
  lastWords : ∀ v, (Verdict.closing v coloured format).toList <:+ stdout.toList ↔ report.verdict = v

section Aggregate

variable (results : List (CheckerRun × List Finding)) (coloured : Bool) (format : OutputFormat)

theorem reportTextShows (report : Report) :
    report.Shows coloured format (reportText coloured format report ++ "\n") := by
  cases format with
  | human => exact report.humanShows coloured
  | json => exact report.jsonShows coloured

theorem aggregateCloses :
    ∃ front, reportText coloured format (Report.aggregate results) ++ "\n" =
      front ++ (Report.aggregate results).verdict.closing coloured format := by
  cases format with
  | human => exact Report.humanCloses (Report.aggregateFooter results) coloured
  | json => exact Report.jsonCloses (Report.aggregateClean results) coloured

theorem aggregateAgrees :
    Agrees coloured format (Report.aggregate results)
      (if (Report.aggregate results).ok then 0 else 1)
      (reportText coloured format (Report.aggregate results) ++ "\n") := by
  have clean := Report.aggregateClean results
  have footer := Report.aggregateFooter results
  have closes := aggregateCloses results coloured format
  generalize Report.aggregate results = report at *
  have zero : (if report.ok then 0 else 1) = 0 ↔ report.ok = true := by simp
  refine ⟨rfl, zero.trans clean, fun _ => Report.verdictFailed, ?_, ?_, ?_, report.jsonVerdict,
    ?_, ?_, reportTextShows coloured format report, fun v => Verdict.closingExact closes⟩
  · intro one
    have unclean : report.verdict ≠ .clean := fun same => by simp [clean.mpr same] at one
    have unfailed : (∀ run ∈ report.runs, run.hasFailed = false) ↔
        report.verdict ≠ .executionFailed := by
      rw [Ne, Report.verdictFailed]
      simp
    rw [unfailed]
    revert unclean
    cases report.verdict <;> decide
  · intro v
    rw [footer]
    exact Verdict.footerInjective
  · rw [Report.jsonOk]
    cases report.ok <;> rfl
  · rintro rfl
    rfl
  · rintro rfl
    rfl

end Aggregate

theorem exitStatus (world : World) (options : RunOptions) :
    let outcome := run world options
    (Refused world options → outcome.exit = 2 ∧ outcome.stdout = "" ∧ outcome.calls = []) ∧
    (∀ settings plan, Accepted world options settings plan →
      let source := supply world options settings
      (∀ failure, source.result = .error failure →
        outcome.exit = 2 ∧ outcome.stdout = "" ∧ outcome.calls = source.calls ∧
        ∀ command ∈ outcome.calls, command.head? = some "git") ∧
      (∀ diff names, source.result = .ok (diff, names) →
        let result := plan.execute
          ⟨settings.root, world.tree, world.launch settings.root settings.timeout⟩ names diff
        outcome.calls = source.calls ++ result.calls ∧
        Agrees world.coloured settings.output result.report outcome.exit outcome.stdout)) ∧
    (Refused world options ∨ ∃ settings plan, Accepted world options settings plan) := by
  intro outcome
  refine ⟨?_, ?_, refusedOrAccepted world options⟩
  · intro refused
    obtain ⟨error, ended⟩ := runRefused refused
    simp only [outcome, ended]
    exact ⟨rfl, rfl, rfl⟩
  · intro settings plan accepted source
    have ended : outcome = _ := (runAccepted accepted).trans (executeSupply _ _ _ _)
    refine ⟨?_, ?_⟩
    · intro failure failed
      rw [failed] at ended
      rw [ended]
      exact ⟨rfl, rfl, rfl, supplyCalls world options settings⟩
    · intro diff names supplied result
      rw [supplied] at ended
      rw [ended]
      exact ⟨rfl, aggregateAgrees _ _ _⟩

def blankAdded : World :=
  ⟨⟨[([".patchlint.toml"], .file "linters = [\"whitespace\"]".toUTF8 false),
      (["a"], .file "b ".toUTF8 false)], []⟩,
    "--- a\n+++ a\n@@ -1 +1 @@\n-b\n+b \n".toUTF8, false,
    fun _ _ command => .error (.spawn (commandLine command) "not found")⟩

def onInput : RunOptions := ⟨none, none, none, some "-", none, none, none, false⟩

def blankText : String :=
  "✖ a:1:2 Trailing whitespace\n\nwhitespace findings files=1 raw=1 kept=1\n" ++
    "— Summary — messages=1 linters=1 failed=0 ▲ findings\n"

theorem blankPrinted :
    (run blankAdded onInput).exit = 1 ∧ (run blankAdded onInput).stdout = blankText ∧
      ∃ settings plan diff names, Accepted blankAdded onInput settings plan ∧
        (supply blankAdded onInput settings).result = .ok (diff, names) ∧
        ∃ report : Report, report.verdict = .findingsPresent ∧
          Agrees false .human report 1 blankText := by
  have one : (run blankAdded onInput).exit = 1 := by decide +kernel
  have text : (run blankAdded onInput).stdout = blankText := by decide +kernel
  have format : (Settings.resolve blankAdded.tree onInput.overrides).toOption.map (·.output) =
      some .human := by decide +kernel
  obtain ⟨refused, accepted, known⟩ := exitStatus blankAdded onInput
  -- An exit code of 1 rules out the two ways to end without a report.
  obtain ⟨settings, plan, valid⟩ := known.resolve_left (fun no => by simp [(refused no).1] at one)
  obtain ⟨failed, finished⟩ := accepted settings plan valid
  cases supplied : (supply blankAdded onInput settings).result with
  | error failure => simp [(failed failure supplied).1] at one
  | ok source =>
    obtain ⟨-, agrees⟩ := finished source.1 source.2 supplied
    rw [valid.resolved] at format
    have human : settings.output = .human := Option.some.inj format
    rw [one, text, human] at agrees
    refine ⟨one, text, settings, plan, source.1, source.2, valid, supplied, _, ?_, agrees⟩
    exact (agrees.lastWords .findingsPresent).mp (by decide +kernel)

end Program

end LintGate
