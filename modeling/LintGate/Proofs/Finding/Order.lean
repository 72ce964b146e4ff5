import LintGate.Finding
import LintGate.Proofs.Text.ByteOrder

/-! The order of a report and the merge that sorts and drops repeats. Repeats are dropped among
neighbours only, so that each finding comes once rests on the comparison: it is a total order
and calls equal only what is the same finding. -/
namespace LintGate

def placeBefore : Option Nat → Option Nat → Prop
  | none, some _ => True
  | some a, some b => a < b
  | _, none => False

theorem comparePlaceCore (a b : Option Nat) : comparePlace a b = compare a b := by
  cases a <;> cases b <;> rfl

@[simp] theorem comparePlaceLt (a b : Option Nat) : comparePlace a b = .lt ↔ placeBefore a b := by
  cases a <;> cases b <;> simp [comparePlace, placeBefore, Nat.compare_eq_lt]

@[simp] theorem comparePlaceEq (a b : Option Nat) : comparePlace a b = .eq ↔ a = b := by
  rw [comparePlaceCore]
  exact Std.LawfulEqOrd.compare_eq_iff_eq

@[simp] theorem compareTextLt (s t : String) : compare s t = .lt ↔ Text.utf8 s < Text.utf8 t := by
  rw [Text.utf8BelowIff]
  change compareOfLessAndEq s t = .lt ↔ s < t
  exact compareOfLessAndEq_eq_lt

@[simp] theorem compareTextEq (s t : String) : compare s t = .eq ↔ s = t :=
  Std.LawfulEqOrd.compare_eq_iff_eq

namespace Finding

def Before (a b : Finding) : Prop :=
  Text.utf8 a.file < Text.utf8 b.file ∨ a.file = b.file ∧
    (placeBefore a.line b.line ∨ a.line = b.line ∧
      (placeBefore a.column b.column ∨ a.column = b.column ∧
        Text.utf8 a.text < Text.utf8 b.text))

@[simp] theorem cmpLt (a b : Finding) : cmp a b = .lt ↔ Before a b := by
  simp [cmp, Before, Ordering.then_eq_lt]

@[simp] theorem cmpEq (a b : Finding) : cmp a b = .eq ↔ a = b := by
  simp only [cmp, Ordering.then_eq_eq, compareTextEq, comparePlaceEq]
  constructor
  · rintro ⟨file, line, column, text⟩
    cases a
    cases b
    simp_all
  · rintro rfl
    exact ⟨rfl, rfl, rfl, rfl⟩

theorem cmpLexicographic : cmp = compareLex (compareOn file) (compareLex (compareOn line)
    (compareLex (compareOn column) (compareOn text))) := by
  funext a b
  simp only [cmp, compareLex, compareOn, comparePlaceCore]

instance : Std.TransCmp cmp := by
  rw [cmpLexicographic]
  infer_instance

instance : Std.LawfulEqCmp cmp where
  eq_of_compare h := (cmpEq _ _).mp h

theorem leTrans (a b c : Finding) (ab : le a b = true) (bc : le b c = true) : le a c = true :=
  Std.TransCmp.isLE_trans ab bc

theorem leTotal (a b : Finding) : (le a b || le b a) = true := by
  have swap : cmp a b = (cmp b a).swap := Std.OrientedCmp.eq_swap
  unfold le
  rw [swap]
  cases cmp b a <;> rfl

theorem leAntisymm {a b : Finding} (ab : le a b = true) (ba : le b a = true) : a = b :=
  (cmpEq a b).mp (Std.OrientedCmp.isLE_antisymm ab ba)

theorem beforeOfLe {a b : Finding} (ab : le a b = true) (different : a ≠ b) : Before a b := by
  have notEq : cmp a b ≠ .eq := fun h => different ((cmpEq a b).mp h)
  rw [← cmpLt]
  unfold le at ab
  cases h : cmp a b with
  | lt => rfl
  | eq => exact absurd h notEq
  | gt => simp [h] at ab

theorem leOfBefore {a b : Finding} (h : Before a b) : le a b = true := by
  simp [le, (cmpLt a b).mpr h]

theorem beforeIrrefl (a : Finding) : ¬ Before a a := by
  rw [← cmpLt, (cmpEq a a).mpr rfl]
  simp

theorem sortOrdered (findings : List Finding) : (sort findings).Pairwise (fun a b => le a b) :=
  List.pairwise_mergeSort leTrans leTotal findings

@[simp] theorem sortMem {findings : List Finding} {m : Finding} :
    m ∈ sort findings ↔ m ∈ findings :=
  (List.mergeSort_perm findings le).mem_iff

@[simp] theorem dropRepeatsMem {findings : List Finding} {m : Finding} :
    m ∈ dropRepeats findings ↔ m ∈ findings := by
  fun_induction dropRepeats findings with
  | case1 => rfl
  | case2 => rfl
  | case3 b rest ih => simpa using ih
  | case4 a b rest different ih => rw [List.mem_cons, ih, ← List.mem_cons]

/- A head that is kept differs from its neighbour, which comes before all others. -/
theorem dropRepeatsAscending {findings : List Finding}
    (ordered : findings.Pairwise (fun a b => le a b)) :
    (dropRepeats findings).Pairwise Before := by
  fun_induction dropRepeats findings with
  | case1 => exact List.Pairwise.nil
  | case2 a => exact List.pairwise_singleton _ _
  | case3 b rest ih => exact ih (List.pairwise_cons.mp ordered).2
  | case4 a b rest different ih =>
    obtain ⟨first, later⟩ := List.pairwise_cons.mp ordered
    refine List.pairwise_cons.mpr ⟨fun m member => ?_, ih later⟩
    have present : m ∈ b :: rest := dropRepeatsMem.mp member
    refine beforeOfLe (first m present) ?_
    rintro rfl
    have neighbour : le b a = true := by
      rcases List.mem_cons.mp present with rfl | inRest
      · exact absurd rfl different
      · exact (List.pairwise_cons.mp later).1 _ inRest
    exact different (leAntisymm (first b (by simp)) neighbour)

theorem mergedAscending (findings : List Finding) :
    (dropRepeats (sort findings)).Pairwise Before := dropRepeatsAscending (sortOrdered findings)

theorem mergedMem {findings : List Finding} {m : Finding} :
    m ∈ dropRepeats (sort findings) ↔ m ∈ findings := dropRepeatsMem.trans sortMem

theorem ascendingNodup {findings : List Finding} (ascending : findings.Pairwise Before) :
    findings.Nodup := by
  refine ascending.imp ?_
  rintro a b before rfl
  exact beforeIrrefl a before

theorem ascendingUnique {xs ys : List Finding} (hx : xs.Pairwise Before) (hy : ys.Pairwise Before)
    (same : ∀ m, m ∈ xs ↔ m ∈ ys) : xs = ys := by
  have perm : xs.Perm ys :=
    (List.perm_ext_iff_of_nodup (ascendingNodup hx) (ascendingNodup hy)).mpr same
  have orderedX : xs.Pairwise (fun a b => le a b = true) := hx.imp leOfBefore
  have orderedY : ys.Pairwise (fun a b => le a b = true) := hy.imp leOfBefore
  exact perm.eq_of_pairwise (fun a b _ _ ab ba => leAntisymm ab ba) orderedX orderedY

end Finding

end LintGate
