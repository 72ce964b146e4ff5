import LintGate.Change.Index
import LintGate.Proofs.Named

/-! What touching a file, adding lines to it and leaving files out does to a change, as seen through
its two questions: whether a file is touched, and whether a line of a file has changed. -/
namespace LintGate

namespace LineSet

@[simp] theorem containsIff {s : LineSet} {line : Nat} :
    s.contains line = true ↔ line ∈ s.toList := by
  simp [contains]

@[simp] theorem memOfList {lines : List Nat} {line : Nat} :
    line ∈ (ofList lines).toList ↔ line ∈ lines := by
  induction lines with
  | nil => rfl
  | cons first lines ih =>
    rw [List.mem_cons, ← ih]
    exact memInsertAscending

theorem containsInsertAll (s : LineSet) (lines : List Nat) (line : Nat) :
    (s.insertAll lines).contains line = true ↔ s.contains line = true ∨ line ∈ lines := by
  rw [containsIff, containsIff, insertAll, union, memMergeAscending (ofList lines).ascending,
    memOfList]

end LineSet

namespace ChangedLines

theorem linesUpdate (c : ChangedLines) (file : String) (f : LineSet → LineSet) (other : String) :
    (c.update file f).lines? other =
      if other = file then some (f ((c.lines? file).getD .empty)) else c.lines? other := by
  have present : ∀ lines : Option LineSet, lines.elim (f .empty) f = f (lines.getD .empty) := by
    intro lines
    cases lines <;> rfl
  rw [lines?, update, Named.lookupUpsert c.ascending, present]
  rfl

theorem isTouchedUpdate (c : ChangedLines) (file : String) (f : LineSet → LineSet)
    (other : String) :
    (c.update file f).isTouched other = true ↔ c.isTouched other = true ∨ file = other := by
  rw [isTouched, linesUpdate]
  split
  · rename_i same
    simp [same]
  · rename_i distinct
    simp [isTouched, Ne.symm distinct]

@[simp] theorem linesRetain (c : ChangedLines) (keep : String → Bool) (file : String) :
    (c.retain keep).lines? file = if keep file then c.lines? file else none :=
  Named.lookupFilter keep c.entries file

@[simp] theorem linesErase (c : ChangedLines) (gone file : String) :
    (c.erase gone).lines? file = if file = gone then none else c.lines? file := by
  rw [erase, linesRetain]
  by_cases same : file = gone <;> simp [same]

@[simp] theorem isTouchedRetain (c : ChangedLines) (keep : String → Bool) (file : String) :
    (c.retain keep).isTouched file = true ↔ c.isTouched file = true ∧ keep file = true := by
  rw [isTouched, linesRetain]
  cases keep file <;> simp [isTouched]

@[simp] theorem filesTouched {c : ChangedLines} {file : String} :
    file ∈ c.files ↔ c.isTouched file = true := by
  rw [files, List.mem_map, isTouched, lines?, Option.isSome_iff_exists]
  constructor
  · rintro ⟨e, inside, rfl⟩
    exact ⟨e.2, (Named.lookupMem c.ascending).mpr inside⟩
  · rintro ⟨lines, found⟩
    exact ⟨(file, lines), (Named.lookupMem c.ascending).mp found, rfl⟩

@[simp] theorem isTouchedTouch (c : ChangedLines) (file other : String) :
    (c.touch file).isTouched other = true ↔ c.isTouched other = true ∨ file = other :=
  isTouchedUpdate c file id other

@[simp] theorem isTouchedExtend (c : ChangedLines) (file : String) (lines : List Nat)
    (other : String) :
    (c.extend file lines).isTouched other = true ↔ c.isTouched other = true ∨ file = other :=
  isTouchedUpdate c file _ other

theorem containsIff {c : ChangedLines} {file : String} {line : Nat} :
    c.contains file line = true ↔ ((c.lines? file).getD .empty).contains line = true := by
  rw [contains]
  cases c.lines? file with
  | none => simp [LineSet.contains, LineSet.empty]
  | some lines => rfl

theorem containsUpdate (c : ChangedLines) (file : String) (f : LineSet → LineSet) (other : String)
    (line : Nat) :
    (c.update file f).contains other line = true ↔
      if other = file then (f ((c.lines? file).getD .empty)).contains line = true
      else c.contains other line = true := by
  rw [containsIff, linesUpdate]
  split
  · rfl
  · rw [containsIff]

@[simp] theorem containsTouch (c : ChangedLines) (file other : String) (line : Nat) :
    (c.touch file).contains other line = true ↔ c.contains other line = true := by
  rw [touch, containsUpdate]
  split
  · rename_i same
    rw [same, containsIff]
    rfl
  · rfl

@[simp] theorem containsExtend (c : ChangedLines) (file : String) (lines : List Nat)
    (other : String) (line : Nat) :
    (c.extend file lines).contains other line = true ↔
      c.contains other line = true ∨ file = other ∧ line ∈ lines := by
  rw [extend, containsUpdate]
  split
  · rename_i same
    rw [LineSet.containsInsertAll, ← containsIff, same]
    simp
  · rename_i distinct
    simp [Ne.symm distinct]

end ChangedLines

end LintGate
