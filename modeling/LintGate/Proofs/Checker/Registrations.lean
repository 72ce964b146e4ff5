import LintGate.Checker.Builtin
import LintGate.Proofs.History
import Mathlib.Data.List.Basic

/-! A registry as the outcome of the registrations made in it. A name gets its place when it is
first registered and keeps it, and under each name stands the checker registered last. -/
namespace LintGate

structure FirstTold (told names : List String) : Prop where
  listed : ∀ name, name ∈ names ↔ name ∈ told
  ordered : names.Pairwise (fun a b => told.idxOf a < told.idxOf b)

namespace FirstTold

theorem distinct {told names : List String} (first : FirstTold told names) : names.Nodup := by
  refine first.ordered.imp ?_
  rintro a b below rfl
  exact Nat.lt_irrefl _ below

/- A place that a name has once got stays the same when more names are told. -/
theorem orderedLonger {told names : List String} (first : FirstTold told names) (name : String) :
    names.Pairwise (fun a b => (told ++ [name]).idxOf a < (told ++ [name]).idxOf b) := by
  refine first.ordered.imp_of_mem (fun {a b} inA inB below => ?_)
  rwa [List.idxOf_append_of_mem ((first.listed a).mp inA),
    List.idxOf_append_of_mem ((first.listed b).mp inB)]

theorem snoc {told names : List String} (first : FirstTold told names) (name : String) :
    FirstTold (told ++ [name]) (if name ∈ names then names else names ++ [name]) := by
  split
  · rename_i known
    refine ⟨fun other => ?_, first.orderedLonger name⟩
    rw [List.mem_append, List.mem_singleton, ← first.listed, iff_self_or]
    rintro rfl
    exact known
  · rename_i fresh
    have untold : name ∉ told := fun inside => fresh ((first.listed name).mpr inside)
    have last : (told ++ [name]).idxOf name = told.length := by
      rw [List.idxOf_append_of_notMem untold, List.idxOf_cons_self]
      rfl
    refine ⟨fun other => by simp [first.listed], ?_⟩
    refine List.pairwise_append.mpr ⟨first.orderedLonger name, List.pairwise_singleton _ _, ?_⟩
    intro a inside b final
    have inTold : a ∈ told := (first.listed a).mp inside
    rw [List.mem_singleton.mp final, last, List.idxOf_append_of_mem inTold]
    exact List.idxOf_lt_length_of_mem inTold

end FirstTold

namespace Registry

theorem namesPlace (checker : Checker) (checkers : List Checker) :
    (place checker checkers).map (·.name) =
      if checker.name ∈ checkers.map (·.name) then checkers.map (·.name)
      else checkers.map (·.name) ++ [checker.name] := by
  induction checkers with
  | nil => rfl
  | cons c rest ih =>
    unfold place
    by_cases found : c.name = checker.name
    · simp [found]
    · rw [if_neg found, List.map_cons, ih, List.map_cons]
      simp only [List.mem_cons, Ne.symm found, false_or]
      split <;> rfl

theorem findPlace (checker : Checker) (checkers : List Checker) (name : String) :
    (place checker checkers).find? (fun c => c.name == name) =
      if checker.name = name then some checker
      else checkers.find? (fun c => c.name == name) := by
  induction checkers with
  | nil => by_cases same : checker.name = name <;> simp [place, same]
  | cons c rest ih =>
    unfold place
    by_cases found : c.name = checker.name
    · by_cases same : checker.name = name <;> simp [found, same]
    · rw [if_neg found, List.find?_cons, List.find?_cons, ih]
      by_cases here : c.name = name
      · have other : checker.name ≠ name := fun same => found (here.trans same.symm)
        simp [here, other]
      · rw [beq_false_of_ne here]

@[simp] theorem namesRegister (r : Registry) (checker : Checker) :
    (r.register checker).names =
      if checker.name ∈ r.names then r.names else r.names ++ [checker.name] :=
  namesPlace checker r.checkers

@[simp] theorem getRegister (r : Registry) (checker : Checker) (name : String) :
    (r.register checker).get? name = if checker.name = name then some checker else r.get? name :=
  findPlace checker r.checkers name

@[simp] theorem getNone {r : Registry} {name : String} : r.get? name = none ↔ name ∉ r.names := by
  simp [get?, names]

theorem getKnown {r : Registry} {name : String} :
    (∃ checker, r.get? name = some checker) ↔ name ∈ r.names := by
  rw [← Option.isSome_iff_exists, Option.isSome_iff_ne_none, Ne, getNone, not_not]

theorem registerLatest (r : Registry) (d c : Checker) (name : String) :
    (r.register d).get? name = some c ↔
      (d = c ∧ d.name = name) ∨ r.get? name = some c ∧ ¬ d.name = name := by
  rw [getRegister]
  by_cases same : d.name = name <;> simp [same]

structure Reflects (history : List Checker) (r : Registry) : Prop where
  distinct : r.names.Nodup
  first : FirstTold (history.map (·.name)) r.names
  latest : ∀ name c, r.get? name = some c ↔
    History.Since (·.name = name) (fun d => d = c ∧ d.name = name) history
  absent : ∀ name, r.get? name = none ↔ ∀ c ∈ history, c.name ≠ name

theorem namesFold (history : List Checker) :
    FirstTold (history.map (·.name)) (history.foldl register .empty).names := by
  induction history using List.reverseRecOn with
  | nil => exact ⟨fun _ => Iff.rfl, List.Pairwise.nil⟩
  | append_singleton history checker ih =>
    rw [List.foldl_append, List.map_append]
    exact namesRegister _ checker ▸ ih.snoc checker.name

theorem foldReflects (history : List Checker) :
    Reflects history (history.foldl register .empty) where
  distinct := (namesFold history).distinct
  first := namesFold history
  latest name c := History.sinceFold (·.get? name = some c) (Option.some_ne_none c).symm
    (fun r d => registerLatest r d c name) history
  absent name := by
    rw [getNone, (namesFold history).listed]
    simp

theorem registrationsReflected (later : List Checker) :
    Reflects later (later.foldl register .empty) ∧
      Reflects (builtinCheckers ++ later) (later.foldl register .builtin) ∧
      ∀ (r : Registry) (c : Checker) (name : String), name ≠ c.name →
        (r.register c).get? name = r.get? name := by
  refine ⟨foldReflects later, ?_, fun r c name other => ?_⟩
  · rw [builtin, ← List.foldl_append]
    exact foldReflects (builtinCheckers ++ later)
  · rw [getRegister, if_neg (Ne.symm other)]

def ownFlake8 : Checker := { Whitespace.checker with name := "flake8" }

def ownTabs : Checker := { Whitespace.checker with name := "tabs" }

theorem ownCheckerInPlace :
    ([ownFlake8, ownTabs].foldl register .builtin).names =
        ["flake8", "yamllint", "cpplint", "header", "whitespace", "tabs"] ∧
      ([ownFlake8, ownTabs].foldl register .builtin).get? "flake8" = some ownFlake8 ∧
      ([ownFlake8, ownTabs].foldl register .builtin).get? "pylint" = none ∧
      (builtin.register ownFlake8).get? "header" = builtin.get? "header" := by
  obtain ⟨-, reflects, others⟩ := registrationsReflected [ownFlake8, ownTabs]
  refine ⟨by decide +kernel, (reflects.latest "flake8" ownFlake8).mpr ?_,
    (reflects.absent "pylint").mpr (by decide +kernel), others _ _ _ (by decide)⟩
  exact ⟨builtinCheckers, ownFlake8, [ownTabs], rfl, ⟨rfl, rfl⟩, by decide⟩

end Registry

end LintGate
