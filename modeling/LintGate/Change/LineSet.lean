/-! Finite sets of line numbers, kept in ascending order. -/
namespace LintGate

def insertAscending (n : Nat) : List Nat → List Nat
  | [] => [n]
  | m :: ms => if n < m then n :: m :: ms else if n = m then m :: ms else m :: insertAscending n ms

@[simp] theorem memInsertAscending {k n : Nat} {ms : List Nat} :
    k ∈ insertAscending n ms ↔ k = n ∨ k ∈ ms := by
  induction ms with
  | nil => simp [insertAscending]
  | cons m ms ih =>
    unfold insertAscending
    split
    · simp
    · split
      · rename_i same
        simp [same]
      · simp only [List.mem_cons, ih]
        exact ⟨fun h => by rcases h with h | h | h <;> simp [h],
          fun h => by rcases h with h | h | h <;> simp [h]⟩

theorem pairwiseInsertAscending {n : Nat} {ms : List Nat} (h : ms.Pairwise (· < ·)) :
    (insertAscending n ms).Pairwise (· < ·) := by
  induction ms with
  | nil => simp [insertAscending]
  | cons m ms ih =>
    obtain ⟨first, rest⟩ := List.pairwise_cons.1 h
    unfold insertAscending
    split
    · rename_i below
      refine List.pairwise_cons.2 ⟨fun k hk => ?_, h⟩
      rcases List.mem_cons.1 hk with rfl | hk
      · exact below
      · exact Nat.lt_trans below (first k hk)
    · split
      · exact h
      · rename_i notBelow notSame
        refine List.pairwise_cons.2 ⟨fun k hk => ?_, ih rest⟩
        rcases memInsertAscending.1 hk with rfl | hk
        · omega
        · exact first k hk

def mergeAscending : List Nat → List Nat → List Nat
  | [], ns => ns
  | m :: ms, ns => ns.takeWhile (· < m) ++ m :: mergeAscending ms (ns.dropWhile (· ≤ m))

theorem memTakeWhileLt {k m : Nat} {ns : List Nat} (h : ns.Pairwise (· < ·)) :
    k ∈ ns.takeWhile (· < m) ↔ k ∈ ns ∧ k < m := by
  induction ns with
  | nil => simp
  | cons n ns ih =>
    obtain ⟨first, rest⟩ := List.pairwise_cons.1 h
    by_cases below : n < m
    · simp only [List.takeWhile_cons, below, decide_true, if_true, List.mem_cons, ih rest]
      grind
    · simp only [List.takeWhile_cons, below, decide_false, Bool.false_eq_true, if_false,
        List.mem_cons, List.not_mem_nil, false_iff]
      grind

theorem memDropWhileLe {k m : Nat} {ns : List Nat} (h : ns.Pairwise (· < ·)) :
    k ∈ ns.dropWhile (· ≤ m) ↔ k ∈ ns ∧ m < k := by
  induction ns with
  | nil => simp
  | cons n ns ih =>
    obtain ⟨first, rest⟩ := List.pairwise_cons.1 h
    by_cases below : n ≤ m
    · simp only [List.dropWhile_cons, below, decide_true, if_true, List.mem_cons, ih rest]
      grind
    · simp only [List.dropWhile_cons, below, decide_false, Bool.false_eq_true, if_false,
        List.mem_cons]
      grind

theorem memMergeAscending {k : Nat} {ms ns : List Nat} (h : ns.Pairwise (· < ·)) :
    k ∈ mergeAscending ms ns ↔ k ∈ ms ∨ k ∈ ns := by
  induction ms generalizing ns with
  | nil => simp [mergeAscending]
  | cons m ms ih =>
    rw [mergeAscending, List.mem_append, List.mem_cons, List.mem_cons,
      ih (h.sublist (List.dropWhile_sublist _)), memTakeWhileLt h, memDropWhileLe h]
    grind

theorem pairwiseMergeAscending {ms ns : List Nat} (hm : ms.Pairwise (· < ·))
    (hn : ns.Pairwise (· < ·)) : (mergeAscending ms ns).Pairwise (· < ·) := by
  induction ms generalizing ns with
  | nil => exact hn
  | cons m ms ih =>
    obtain ⟨first, rest⟩ := List.pairwise_cons.1 hm
    have hd : (ns.dropWhile (· ≤ m)).Pairwise (· < ·) := hn.sublist (List.dropWhile_sublist _)
    have above : ∀ k ∈ mergeAscending ms (ns.dropWhile (· ≤ m)), m < k := by
      intro k hk
      rcases (memMergeAscending hd).1 hk with hk | hk
      · exact first k hk
      · exact ((memDropWhileLe hn).1 hk).2
    rw [mergeAscending]
    refine List.pairwise_append.2 ⟨hn.sublist (List.takeWhile_sublist _),
      List.pairwise_cons.2 ⟨above, ih rest hd⟩, ?_⟩
    intro a ha b hb
    have below : a < m := ((memTakeWhileLt hn).1 ha).2
    rcases List.mem_cons.1 hb with rfl | hb
    · exact below
    · exact Nat.lt_trans below (above b hb)

structure LineSet where
  toList : List Nat
  ascending : toList.Pairwise (· < ·)
deriving DecidableEq, Repr

namespace LineSet

def empty : LineSet := ⟨[], List.Pairwise.nil⟩

def insert (s : LineSet) (line : Nat) : LineSet :=
  ⟨insertAscending line s.toList, pairwiseInsertAscending s.ascending⟩

def ofList (lines : List Nat) : LineSet := lines.foldr (fun line s => s.insert line) empty

def union (s t : LineSet) : LineSet :=
  ⟨mergeAscending s.toList t.toList, pairwiseMergeAscending s.ascending t.ascending⟩

def insertAll (s : LineSet) (lines : List Nat) : LineSet := s.union (ofList lines)

def contains (s : LineSet) (line : Nat) : Bool := s.toList.contains line

def isEmpty (s : LineSet) : Bool := s.toList.isEmpty

end LineSet

end LintGate
