import LintGate.Checker.Builtin
import LintGate.Plan.Basic
import LintGate.Proofs.Except

/-! Where the checkers of a plan come from. Each entry gives the checker that the registry has
under its name, and the job that this checker makes of its options. -/
namespace LintGate

theorem Planned.ofEntrySource {registry : Registry} {entry : Entry} {p : Planned}
    (ok : Planned.ofEntry registry entry = .ok p) :
    registry.get? entry.name = some p.checker ∧
      ∃ options, p.checker.configure options = .ok p.job := by
  unfold Planned.ofEntry at ok
  cases found : registry.get? entry.name with
  | none => simp [found] at ok
  | some checker =>
    rw [found] at ok
    obtain ⟨⟨filter, options⟩, _, ok⟩ := bindOk.mp ok
    cases configured : checker.configure options with
    | error e => simp [configured] at ok
    | ok job =>
      simp only [configured, Except.ok.injEq] at ok
      subst p
      exact ⟨rfl, options, configured⟩

theorem Plan.ofEntriesSource {registry : Registry} {entries : List Entry} {plan : Plan}
    (ok : Plan.ofEntries registry entries = .ok plan) {p : Planned} (planned : p ∈ plan) :
    ∃ entry ∈ entries, Planned.ofEntry registry entry = .ok p :=
  mapMSource ok planned

@[simp] theorem builtinCases {checker : Checker} : checker ∈ builtinCheckers ↔
    checker = Flake8.checker ∨ checker = Yamllint.checker ∨ checker = Cpplint.checker ∨
      checker = Header.checker ∨ checker = Whitespace.checker := by
  simp [builtinCheckers]

namespace Registry

theorem getSource {registry : Registry} {name : String} {checker : Checker}
    (found : registry.get? name = some checker) :
    checker ∈ registry.checkers ∧ checker.name = name :=
  ⟨List.mem_of_find?_eq_some found, by simpa using List.find?_some found⟩

theorem builtinMode {name : String} {checker : Checker}
    (found : Registry.builtin.get? name = some checker) :
    checker.mode = .whole ∨ checker = Whitespace.checker := by
  rcases builtinCases.mp (getSource found).1 with rfl | rfl | rfl | rfl | rfl
  · exact Or.inl rfl
  · exact Or.inl rfl
  · exact Or.inl rfl
  · exact Or.inl rfl
  · exact Or.inr rfl

end Registry

theorem Whitespace.configureSource {fields : Fields} {job : Job}
    (ok : Whitespace.checker.configure fields = .ok job) : ∃ o, job = Whitespace.job o := by
  obtain ⟨o, -, same⟩ := mapOk.mp ok
  exact ⟨o, same.symm⟩

end LintGate
