import LintGate.Report.Basic
import LintGate.Proofs.Finding.Order
import LintGate.Proofs.Named
import Mathlib.Algebra.GroupWithZero.Nat

/-! Reports as sums of results. All that a report says about its findings, its counts and its
success is put together from the single results in a way that knows no order, so the report of
two lists of results is the merge of their reports. -/
namespace LintGate

section Counts

@[simp] def sum? : List Nat → Option Nat
  | [] => none
  | n :: ns => some (n + ns.sum)

theorem sumAppend (xs ys : List Nat) :
    sum? (xs ++ ys) = Option.merge (· + ·) (sum? xs) (sum? ys) := by
  cases xs with
  | nil => exact Option.merge_none_left.symm
  | cons x xs =>
    cases ys with
    | nil => rw [List.append_nil]; rfl
    | cons y ys =>
      simp only [List.cons_append, sum?, Option.merge_some_some, List.sum_append_nat, List.sum_cons,
        Nat.add_assoc]

theorem sumPerm {xs ys : List Nat} (order : xs.Perm ys) : sum? xs = sum? ys := by
  have same : xs.sum = ys.sum := order.sum_nat
  cases xs with
  | nil => rw [List.nil_perm.mp order]
  | cons x xs =>
    cases ys with
    | nil => cases List.perm_nil.mp order
    | cons y ys => exact congrArg some same

theorem sumSome {ns : List Nat} {n : Nat} : sum? ns = some n ↔ ns ≠ [] ∧ n = ns.sum := by
  cases ns with
  | nil => simp
  | cons m ns => simp [eq_comm]

def total? (runs : List CheckerRun) (name : String) : Option Nat :=
  sum? ((runs.filter (·.name = name)).map (·.rawCount))

theorem totalAppend (xs ys : List CheckerRun) (name : String) :
    total? (xs ++ ys) name = Option.merge (· + ·) (total? xs name) (total? ys name) := by
  rw [total?, List.filter_append, List.map_append, sumAppend]
  rfl

theorem totalPerm {xs ys : List CheckerRun} (order : xs.Perm ys) (name : String) :
    total? xs name = total? ys name := sumPerm ((order.filter _).map _)

theorem totalSome {runs : List CheckerRun} {name : String} {n : Nat} :
    total? runs name = some n ↔ (∃ run ∈ runs, run.name = name) ∧
      n = ((runs.filter (·.name = name)).map (·.rawCount)).sum := by
  rw [total?, sumSome]
  refine and_congr_left' ?_
  simp [List.filter_eq_nil_iff]

def addCounts (counts : List (String × Nat)) (runs : List CheckerRun) : List (String × Nat) :=
  runs.foldl (fun counts run => addCount run.name run.rawCount counts) counts

theorem addCountsAscending {counts : List (String × Nat)} (ascending : Named.Ascending counts)
    (runs : List CheckerRun) : Named.Ascending (addCounts counts runs) := by
  induction runs generalizing counts with
  | nil => exact ascending
  | cons run rest ih => exact ih (Named.upsertAscending ascending)

theorem lookupAddCounts {counts : List (String × Nat)} (ascending : Named.Ascending counts)
    (runs : List CheckerRun) (name : String) :
    (addCounts counts runs).lookup name =
      Option.merge (· + ·) (counts.lookup name) (total? runs name) := by
  induction runs generalizing counts with
  | nil => exact Option.merge_none_right.symm
  | cons run rest ih =>
    have joined := totalAppend [run] rest name
    rw [List.singleton_append] at joined
    rw [addCounts, List.foldl_cons, addCount]
    refine (ih (Named.upsertAscending ascending)).trans ?_
    rw [joined, Named.lookupUpsert ascending]
    refine Eq.trans ?_ (Std.Associative.assoc _ _ _)
    congr 1
    by_cases same : name = run.name
    · subst same
      rw [if_pos rfl]
      cases counts.lookup run.name <;> simp [total?]
    · rw [if_neg same]
      simp [total?, Ne.symm same]

end Counts

namespace Report

variable {results : List (CheckerRun × List Finding)}

theorem aggregateCounts (results : List (CheckerRun × List Finding)) :
    (aggregate results).rawCounts = addCounts [] (results.map (·.1)) := rfl

theorem aggregateAscending (results : List (CheckerRun × List Finding)) :
    Named.Ascending (aggregate results).rawCounts := by
  rw [aggregateCounts]
  exact addCountsAscending List.Pairwise.nil _

theorem aggregateLookup (results : List (CheckerRun × List Finding)) (name : String) :
    (aggregate results).rawCounts.lookup name = total? (results.map (·.1)) name := by
  rw [aggregateCounts, lookupAddCounts List.Pairwise.nil]
  exact Option.merge_none_left

@[simp] theorem aggregateMem {m : Finding} :
    m ∈ (aggregate results).findings ↔ ∃ r ∈ results, m ∈ r.2 := by
  rw [aggregate, Finding.mergedMem, List.mem_flatMap]

theorem aggregateEmpty : (aggregate results).findings = [] ↔ ∀ r ∈ results, r.2 = [] := by
  simp only [List.eq_nil_iff_forall_not_mem, aggregateMem]
  constructor
  · intro none r inside m found
    exact none m ⟨r, inside, found⟩
  · rintro none m ⟨r, inside, found⟩
    exact none r inside m found

theorem aggregateSuccess (results : List (CheckerRun × List Finding)) :
    (aggregate results).ok =
      ((aggregate results).findings.isEmpty && !(aggregate results).runs.any (·.hasFailed)) := rfl

theorem aggregateOk (results : List (CheckerRun × List Finding)) :
    (aggregate results).ok = results.all (fun r => r.2.isEmpty && !r.1.hasFailed) := by
  rw [Bool.eq_iff_iff, aggregateSuccess, Bool.and_eq_true, List.isEmpty_iff, aggregateEmpty,
    List.all_eq_true]
  simp only [aggregate, Bool.not_eq_true', List.any_eq_false, List.mem_map, Bool.and_eq_true,
    List.isEmpty_iff]
  constructor
  · rintro ⟨empty, unfailed⟩ r inside
    exact ⟨empty r inside, by simpa using unfailed r.1 ⟨r, inside, rfl⟩⟩
  · intro each
    refine ⟨fun r inside => (each r inside).1, ?_⟩
    rintro _ ⟨r, inside, rfl⟩
    simpa using (each r inside).2

/- The two reports as one: their findings in order and each once, their counts added name by
name, and the records of the second behind those of the first. -/
structure MergeOf (r s t : Report) : Prop where
  ascending : t.findings.Pairwise Finding.Before
  findings : ∀ m, m ∈ t.findings ↔ m ∈ r.findings ∨ m ∈ s.findings
  names : Named.Ascending t.rawCounts
  rawCounts : ∀ name, t.rawCounts.lookup name =
    Option.merge (· + ·) (r.rawCounts.lookup name) (s.rawCounts.lookup name)
  runs : t.runs = r.runs ++ s.runs
  ok : t.ok = (r.ok && s.ok)

theorem mergeUnique {r s t u : Report} (left : MergeOf r s t) (right : MergeOf r s u) : t = u := by
  have findings : t.findings = u.findings :=
    Finding.ascendingUnique left.ascending right.ascending
      (fun m => (left.findings m).trans (right.findings m).symm)
  have counts : t.rawCounts = u.rawCounts :=
    Named.unique left.names right.names
      (fun name => (left.rawCounts name).trans (right.rawCounts name).symm)
  have runs : t.runs = u.runs := left.runs.trans right.runs.symm
  have ok : t.ok = u.ok := left.ok.trans right.ok.symm
  cases t
  cases u
  simp_all

theorem aggregateAppend (xs ys : List (CheckerRun × List Finding)) :
    MergeOf (aggregate xs) (aggregate ys) (aggregate (xs ++ ys)) where
  ascending := Finding.mergedAscending _
  findings m := by
    rw [aggregateMem, aggregateMem, aggregateMem]
    simp only [List.mem_append, or_and_right, exists_or]
  names := aggregateAscending _
  rawCounts name := by
    rw [aggregateLookup, aggregateLookup, aggregateLookup, List.map_append, totalAppend]
  runs := List.map_append
  ok := by rw [aggregateOk, aggregateOk, aggregateOk, List.all_append]

structure SameUpToOrder (r s : Report) : Prop where
  findings : r.findings = s.findings
  rawCounts : r.rawCounts = s.rawCounts
  ok : r.ok = s.ok
  verdict : r.verdict = s.verdict
  runs : r.runs.Perm s.runs

theorem aggregateOrder {xs ys : List (CheckerRun × List Finding)} (order : xs.Perm ys) :
    SameUpToOrder (aggregate xs) (aggregate ys) := by
  have findings : (aggregate xs).findings = (aggregate ys).findings := by
    refine Finding.ascendingUnique (Finding.mergedAscending _) (Finding.mergedAscending _)
      (fun m => ?_)
    simp only [aggregateMem, order.mem_iff]
  have counts : (aggregate xs).rawCounts = (aggregate ys).rawCounts := by
    refine Named.unique (aggregateAscending xs) (aggregateAscending ys) (fun name => ?_)
    rw [aggregateLookup, aggregateLookup, totalPerm (order.map _)]
  have ok : (aggregate xs).ok = (aggregate ys).ok := by
    rw [aggregateOk, aggregateOk, order.all_eq]
  have runs : (aggregate xs).runs.Perm (aggregate ys).runs := order.map _
  refine ⟨findings, counts, ok, ?_, runs⟩
  rw [verdict, verdict, findings, runs.any_eq]

end Report

end LintGate
