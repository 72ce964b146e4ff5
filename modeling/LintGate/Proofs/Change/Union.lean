import LintGate.Proofs.Change.Index

/-! Changes put together. A change is known by the lines it gives for each file, and the union of
two changes has the files of either and, for a file of both, the lines of both. -/
namespace LintGate

namespace LineSet

@[simp] theorem memUnion {s t : LineSet} {n : Nat} :
    n ∈ (s.union t).toList ↔ n ∈ s.toList ∨ n ∈ t.toList := memMergeAscending t.ascending

theorem unique {s t : LineSet} (same : ∀ n, n ∈ s.toList ↔ n ∈ t.toList) : s = t := by
  obtain ⟨xs, ascendingX⟩ := s
  obtain ⟨ys, ascendingY⟩ := t
  have equal : xs = ys := ascendingX.eq_of_mem_iff ascendingY same
  subst equal
  rfl

theorem unionComm (s t : LineSet) : s.union t = t.union s :=
  unique (fun n => by rw [memUnion, memUnion, or_comm])

theorem unionAssoc (s t u : LineSet) : (s.union t).union u = s.union (t.union u) :=
  unique (fun n => by rw [memUnion, memUnion, memUnion, memUnion, or_assoc])

@[simp] theorem unionEmpty (s : LineSet) : s.union .empty = s :=
  unique (fun n => by simp [empty])

instance : Std.Commutative union := ⟨unionComm⟩

instance : Std.Associative union := ⟨unionAssoc⟩

end LineSet

namespace ChangedLines

theorem unique {c d : ChangedLines} (same : ∀ file, c.lines? file = d.lines? file) : c = d := by
  obtain ⟨xs, ascendingX⟩ := c
  obtain ⟨ys, ascendingY⟩ := d
  have equal : xs = ys := Named.unique ascendingX ascendingY same
  subst equal
  rfl

def union (c d : ChangedLines) : ChangedLines :=
  ⟨Named.merge LineSet.union c.entries d.entries, Named.mergeAscending c.ascending d.entries⟩

@[simp] theorem linesUnion (c d : ChangedLines) (file : String) :
    (c.union d).lines? file = Option.merge LineSet.union (c.lines? file) (d.lines? file) :=
  Named.lookupMerge LineSet.union c.ascending d.ascending file

theorem unionComm (c d : ChangedLines) : c.union d = d.union c := by
  refine unique (fun file => ?_)
  rw [linesUnion, linesUnion]
  exact Std.Commutative.comm _ _

theorem unionAssoc (c d e : ChangedLines) : (c.union d).union e = c.union (d.union e) := by
  refine unique (fun file => ?_)
  rw [linesUnion, linesUnion, linesUnion, linesUnion]
  exact Std.Associative.assoc _ _ _

@[simp] theorem unionEmpty (c : ChangedLines) : c.union .empty = c := rfl

theorem unionUpdate (c d : ChangedLines) (file : String) {f : LineSet → LineSet}
    (keeps : ∀ s t : LineSet, f (s.union t) = s.union (f t)) :
    (c.union d).update file f = c.union (d.update file f) := by
  have alone : ∀ s : LineSet, f s = s.union (f .empty) := fun s => by
    rw [← keeps, LineSet.unionEmpty]
  refine unique (fun other => ?_)
  rw [linesUpdate, linesUnion, linesUnion, linesUnion, linesUpdate]
  by_cases same : other = file
  · subst same
    rw [if_pos rfl, if_pos rfl]
    cases c.lines? other with
    | none => cases d.lines? other <;> rfl
    | some lines =>
      cases d.lines? other with
      | none => exact congrArg some (alone lines)
      | some more => exact congrArg some (keeps lines more)
  · rw [if_neg same, if_neg same]

theorem unionTouch (c d : ChangedLines) (file : String) :
    (c.union d).touch file = c.union (d.touch file) :=
  unionUpdate c d file (fun _ _ => rfl)

theorem unionExtend (c d : ChangedLines) (file : String) (lines : List Nat) :
    (c.union d).extend file lines = c.union (d.extend file lines) :=
  unionUpdate c d file (fun s t => LineSet.unionAssoc s t (.ofList lines))

end ChangedLines

end LintGate
