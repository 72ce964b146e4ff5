import LintGate.Proofs.Checker.ColonRecord
import LintGate.Proofs.Checker.Cpplint
import LintGate.Proofs.Checker.Header
import LintGate.Proofs.Checker.Whitespace
import LintGate.Proofs.Plan.Restriction
import Mathlib.Algebra.GroupWithZero.Nat

/-! Where findings stand. A line or a column that is not known is left out, never written as zero:
the numbers in a finding count from one and have 32 bits, and a column comes with its line. So it is
for what each built-in checker returns, whatever it was made to look at, and for every report. -/
namespace LintGate

def Counted (place : Option Nat) : Prop := ∀ n, place = some n → 1 ≤ n ∧ n ≤ 2 ^ 32 - 1

structure Finding.Placed (m : Finding) : Prop where
  line : Counted m.line
  column : Counted m.column
  lined : m.line = none → m.column = none

theorem countedNone : Counted none := by
  intro n absent
  cases absent

theorem countedSome {n : Nat} (positive : 1 ≤ n) (fits : n < Text.limit32) : Counted (some n) := by
  intro k same
  cases same
  unfold Text.limit32 at fits
  omega

theorem countedPosition {n : Nat} (positive : 1 ≤ n) : Counted (some (position n)) := by
  unfold position lastPosition Text.limit32
  exact countedSome (by omega) (by unfold Text.limit32; omega)

theorem Finding.placedPosition {file message : String} {line column : Nat} (below : 1 ≤ line)
    (beside : 1 ≤ column) :
    Finding.Placed ⟨file, some (position line), some (position column), message⟩ := by
  refine ⟨countedPosition below, countedPosition beside, fun absent => ?_⟩
  cases absent

theorem Finding.placedRelative (root : String) {m : Finding} (placed : m.Placed) :
    (m.relativeTo root).Placed := ⟨placed.line, placed.column, placed.lined⟩

section Records

theorem ColonRecord.canonicalPlaced {m : Finding} (canonical : Canonical m) : m.Placed := by
  obtain ⟨n, atLine, linePositive, lineFits⟩ := canonical.line
  obtain ⟨k, atColumn, columnPositive, columnFits⟩ := canonical.column
  refine ⟨?_, ?_, fun absent => ?_⟩
  · rw [atLine]
    exact countedSome linePositive lineFits
  · rw [atColumn]
    exact countedSome columnPositive columnFits
  · rw [absent] at atLine
    cases atLine

theorem Cpplint.rowCounted {number : List Char} {row : Option Nat}
    (read : row? number = some row) : Counted row := by
  unfold row? at read
  obtain ⟨n, numeral, same⟩ := Option.map_eq_some_iff.mp read
  have fits := (Text.unsignedSome.mp numeral).2
  subst same
  by_cases zero : n = 0
  · rw [if_pos zero]
    exact countedNone
  · rw [if_neg zero]
    exact countedSome (Nat.pos_of_ne_zero zero) fits

theorem Cpplint.recordCounted {line : List Char} {m : Finding} (read : record? line = some m) :
    m.Placed := by
  rw [record?] at read
  obtain few | ⟨place, rest, words, colons⟩ | ⟨file, number, behind, description, category,
    confidence, words, fileFree, numberFree, behindFree, described⟩ := wordsCases (Text.words line)
  · rw [fewWordsRead few] at read
    cases read
  · rw [words, recordOtherColons colons] at read
    cases read
  · rw [words, recordPlaced fileFree numberFree behindFree described] at read
    split at read
    · cases read
    · obtain ⟨row, numbered, same⟩ := Option.map_eq_some_iff.mp read
      subst same
      exact ⟨rowCounted numbered, countedNone, fun _ => rfl⟩

end Records

section Tools

variable {P : Finding → Prop}

theorem Batch.runGroupsEach {runner : Runner} {accepts : Acceptance}
    {read : Output → List Finding} {base : Command} (each : ∀ out, ∀ m ∈ read out, P m)
    {groups : List (List String)} {raw : List Finding}
    (ok : (runGroups runner accepts read base groups).result = .ok raw) : ∀ m ∈ raw, P m := by
  induction groups generalizing raw with
  | nil =>
    cases ok
    simp
  | cons group groups ih =>
    unfold runGroups at ok
    cases answer : runner.run accepts (base ++ group) with
    | error failure => simp [answer] at ok
    | ok out =>
      simp only [answer] at ok
      obtain ⟨later, rest, same⟩ := mapOk.mp ok
      subst same
      intro m member
      rcases List.mem_append.mp member with first | behind
      · exact each out m first
      · exact ih rest m behind

theorem ExternalTool.runEach {tool : ExternalTool} (each : ∀ out, ∀ m ∈ tool.read out, P m)
    {runner : Runner} {files : List String} {raw : List Finding}
    (ok : (tool.run runner files).result = .ok raw) : ∀ m ∈ raw, P m := by
  unfold ExternalTool.run at ok
  split at ok
  · cases ok
    simp
  · exact Batch.runGroupsEach each ok

end Tools

def Job.Places (job : Job) : Prop :=
  ∀ ctx selection raw, (job ctx selection).result = .ok raw → ∀ m ∈ raw, m.Placed

theorem Flake8.jobPlaces (o : Flake8.Options) : Job.Places (Flake8.job o) := by
  intro ctx selection raw ok
  refine ExternalTool.runEach (fun out m member => ?_) ok
  exact ColonRecord.canonicalPlaced (ColonRecord.recordsCanonical member)

theorem Yamllint.jobPlaces (o : Yamllint.Options) : Job.Places (Yamllint.job o) := by
  intro ctx selection raw ok
  refine ExternalTool.runEach (fun out m member => ?_) ok
  exact ColonRecord.canonicalPlaced (ColonRecord.recordsCanonical member)

theorem Cpplint.jobPlaces (o : Cpplint.Options) : Job.Places (Cpplint.job o) := by
  intro ctx selection raw ok
  refine ExternalTool.runEach (fun out m member => ?_) ok
  obtain ⟨line, -, read⟩ := List.mem_filterMap.mp member
  exact Cpplint.recordCounted read

theorem eachPlaced {ctx : Context} {check : (file source : String) → List Finding}
    (placed : ∀ file source, ∀ m ∈ check file source, m.Placed) {files : List String}
    {raw : List Finding} (ok : checkEach ctx check files = .ok raw) : ∀ m ∈ raw, m.Placed := by
  obtain ⟨-, rfl⟩ := checkEachOk.mp ok
  intro m member
  obtain ⟨file, -, within⟩ := List.mem_flatMap.mp member
  obtain ⟨source, -, found⟩ := foundInMem within
  exact placed file source m found

namespace Header

theorem wrongPositive {shebang : Option String} {expected lines : List (List Char)} {flaw : Flaw}
    (wrong : Wrong shebang expected lines flaw) : 1 ≤ flaw.place := by
  cases wrong with
  | shebang configured apart filled other => exact Nat.le_refl 1
  | line wanted stands other => exact Nat.le_add_left_of_le (Nat.succ_le_succ (Nat.zero_le _))

theorem checkPlaced {file : String} {shebang : Option String} {expected lines : List (List Char)}
    {m : Finding} (member : m ∈ check file shebang expected lines) : m.Placed := by
  obtain ⟨flaws, listed, same⟩ := checkListed file shebang expected lines
  rw [same] at member
  obtain ⟨flaw, inside, finding⟩ := List.mem_map.mp member
  subst finding
  have positive := wrongPositive ((listed.exactly flaw).mp inside)
  exact ⟨countedPosition positive, countedNone, fun _ => rfl⟩

theorem jobPlaces (o : Options) : Job.Places (job o) := by
  intro ctx selection raw ok
  have returned : run ctx o selection.toList = .ok raw := ok
  unfold run at returned
  split at returned
  · cases returned
    simp
  · dsimp only at returned
    split at returned
    · cases returned
    · exact eachPlaced (fun file source m member => checkPlaced member) returned

end Header

namespace Whitespace

theorem trailingPlaced {file : String} {number : Nat} (positive : 1 ≤ number) {line : List Char}
    {m : Finding} (member : m ∈ trailing file number line) : m.Placed := by
  simp only [trailing] at member
  split at member
  · exact absurd member List.not_mem_nil
  · cases List.mem_singleton.mp member
    exact Finding.placedPosition positive (Nat.succ_pos _)

theorem tabPlaced {file : String} {number : Nat} (positive : 1 ≤ number) {line : List Char}
    {m : Finding} (member : m ∈ tab file number line) : m.Placed := by
  unfold tab at member
  split at member
  · exact absurd member List.not_mem_nil
  · cases List.mem_singleton.mp member
    exact Finding.placedPosition positive (Nat.succ_pos _)

theorem checkLinePlaced {o : Options} {file : String} {number : Nat} (positive : 1 ≤ number)
    {line : List Char} {m : Finding} (member : m ∈ checkLine o file number line) : m.Placed := by
  rcases List.mem_append.mp member with found | found
  · exact trailingPlaced positive found
  · split at found
    · exact tabPlaced positive found
    · exact absurd found List.not_mem_nil

theorem checkLinesPlaced {o : Options} {file : String} {wanted : Option LineSet} {number : Nat}
    (positive : 1 ≤ number) {lines : List (List Char)} {m : Finding}
    (member : m ∈ checkLines o file wanted number lines) : m.Placed := by
  induction lines generalizing number with
  | nil => exact absurd member List.not_mem_nil
  | cons line rest ih =>
    have later := ih (Nat.le_succ_of_le positive)
    simp only [checkLines] at member
    split at member
    · rcases List.mem_append.mp member with found | found
      · exact checkLinePlaced positive found
      · exact later found
    · exact later member

theorem jobPlaces (o : Options) : Job.Places (job o) := by
  intro ctx selection raw ok
  exact eachPlaced (fun file source m member => checkLinesPlaced (Nat.le_refl 1) member) ok

end Whitespace

theorem builtinPlaces {checker : Checker} (builtin : checker ∈ builtinCheckers) {fields : Fields}
    {job : Job} (configured : checker.configure fields = .ok job) : job.Places := by
  rcases builtinCases.mp builtin with rfl | rfl | rfl | rfl | rfl
  · obtain ⟨o, -, rfl⟩ := mapOk.mp configured
    exact Flake8.jobPlaces o
  · obtain ⟨o, -, rfl⟩ := mapOk.mp configured
    exact Yamllint.jobPlaces o
  · obtain ⟨o, -, rfl⟩ := mapOk.mp configured
    exact Cpplint.jobPlaces o
  · obtain ⟨o, -, rfl⟩ := mapOk.mp configured
    exact Header.jobPlaces o
  · obtain ⟨o, -, rfl⟩ := mapOk.mp configured
    exact Whitespace.jobPlaces o

namespace Plan

theorem executePlaces {plan : Plan} (each : ∀ p ∈ plan, Job.Places p.job) (ctx : Context)
    (candidates : List String) (diff : Option ChangedLines) :
    ∀ m ∈ (plan.execute ctx candidates diff).report.findings, m.Placed := by
  intro m member
  obtain ⟨p, planned, found⟩ := executeFindingsMem.mp member
  obtain ⟨raw, returns, r, inside, named, -⟩ := Planned.executeMem.mp found
  subst named
  exact Finding.placedRelative ctx.root (each p planned ctx _ raw returns.2 r inside)

theorem builtinPlanPlaces {registry : Registry} (builtin : registry.checkers ⊆ builtinCheckers)
    {entries : List Entry} {plan : Plan} (valid : Plan.ofEntries registry entries = .ok plan) :
    ∀ p ∈ plan, Job.Places p.job := by
  intro p planned
  obtain ⟨entry, -, source⟩ := ofEntriesSource valid planned
  obtain ⟨registered, options, configured⟩ := Planned.ofEntrySource source
  exact builtinPlaces (builtin (Registry.getSource registered).1) configured

theorem placesCounted :
    (∀ checker ∈ builtinCheckers, ∀ fields job, checker.configure fields = .ok job →
      ∀ ctx selection raw, (job ctx selection).result = .ok raw → ∀ m ∈ raw, m.Placed) ∧
    (∀ registry : Registry, registry.checkers ⊆ builtinCheckers →
      ∀ entries plan, Plan.ofEntries registry entries = .ok plan → ∀ ctx candidates diff,
        ∀ m ∈ (plan.execute ctx candidates diff).report.findings, m.Placed) := by
  constructor
  · intro checker builtin fields job configured
    exact builtinPlaces builtin configured
  · intro registry builtin entries plan valid ctx candidates diff
    exact executePlaces (builtinPlanPlaces builtin valid) ctx candidates diff

theorem twoFlawsCounted :
    Whitespace.checker ∈ builtinCheckers ∧
      (∃ job, Whitespace.checker.configure [] = .ok job ∧
        (job twoFlaws (.whole ["a.py"])).result = .ok
          [⟨"a.py", some 1, some 6, "Trailing whitespace"⟩,
            ⟨"a.py", some 2, some 2, "Trailing whitespace"⟩,
            ⟨"a.py", some 2, some 2, "Tab character"⟩] ∧
        Finding.Placed ⟨"a.py", some 1, some 6, "Trailing whitespace"⟩) ∧
      ∃ plan, Plan.ofEntries .builtin [⟨"whitespace", []⟩] = .ok plan ∧
        ⟨"a.py", some 2, some 2, "Tab character"⟩ ∈
          (plan.execute twoFlaws ["a.py"] none).report.findings ∧
        Finding.Placed ⟨"a.py", some 2, some 2, "Tab character"⟩ := by
  have builtin : Whitespace.checker ∈ builtinCheckers := by simp [builtinCheckers]
  have found : (Whitespace.job .default twoFlaws (.whole ["a.py"])).result = .ok
      [⟨"a.py", some 1, some 6, "Trailing whitespace"⟩,
        ⟨"a.py", some 2, some 2, "Trailing whitespace"⟩,
        ⟨"a.py", some 2, some 2, "Tab character"⟩] := by decide +kernel
  obtain ⟨plan, valid, reported⟩ : ∃ plan, Plan.ofEntries .builtin [⟨"whitespace", []⟩] = .ok plan ∧
      ⟨"a.py", some 2, some 2, "Tab character"⟩ ∈
        (plan.execute twoFlaws ["a.py"] none).report.findings :=
    ⟨_, rfl, executeFindingsMem.mpr ⟨_, List.mem_cons_self, by decide +kernel⟩⟩
  refine ⟨builtin, ⟨_, rfl, found, ?_⟩, plan, valid, reported, ?_⟩
  · exact placesCounted.1 _ builtin [] _ rfl _ _ _ found _ (by simp)
  · exact placesCounted.2 .builtin (List.Subset.refl _) _ _ valid _ _ _ _ reported

end Plan

end LintGate
