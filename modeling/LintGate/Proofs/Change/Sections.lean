import LintGate.Change.Diff
import LintGate.Proofs.Change.Union
import LintGate.Proofs.Text.Printed
import Mathlib.Data.List.Perm.Basic

/-! The sections of a diff do not see each other. A reader only ever adds to the change that it
has, so what was read before can be put under it afterwards; and the line that opens a section
makes the reader forget all the rest, the lines that a hunk still owes among it. -/
namespace LintGate.Diff

def opening : List Char := "diff --git ".toList

def IsSection (text : String) : Prop :=
  opening <+: text.toList ∧ text.toList.getLast? = some '\n'

namespace Reader

def withBase (r : Reader) (c : ChangedLines) : Reader := { r with changes := c.union r.changes }

theorem settleWithBase (r : Reader) (c : ChangedLines) :
    (r.withBase c).settle = c.union r.settle := by
  unfold settle withBase
  cases r.announced with
  | none => rfl
  | some file => exact ChangedLines.unionTouch c r.changes file

theorem headerWithBase (r : Reader) (c : ChangedLines) (line : List Char) :
    (r.withBase c).header line = (r.header line).withBase c := by
  unfold header
  cases Header.ofLine line with
  | «section» path =>
    show ({ r with changes := (r.withBase c).settle, current := none, announced := _ } : Reader) = _
    rw [settleWithBase]
    rfl
  | renamed path => rfl
  | deleted => rfl
  | other => rfl
  | target path =>
    cases path with
    | none => rfl
    | some path =>
      show ({ r with changes := (c.union r.changes).touch _, current := _, announced := _ } :
        Reader) = _
      rw [ChangedLines.unionTouch]
      rfl
  | hunk hunk =>
    cases hunk with
    | none => rfl
    | some hunk =>
      cases current : r.current with
      | none => simp [withBase, current]
      | some file => simp [withBase, current, ChangedLines.unionExtend]

theorem stepWithBase (r : Reader) (c : ChangedLines) (line : List Char) :
    (r.withBase c).step line = (r.step line).withBase c := by
  unfold step
  by_cases idle : r.oldOwed = 0 ∧ r.newOwed = 0
  · have also : (r.withBase c).oldOwed = 0 ∧ (r.withBase c).newOwed = 0 := idle
    rw [if_pos idle, if_pos also, headerWithBase]
  · have also : ¬ ((r.withBase c).oldOwed = 0 ∧ (r.withBase c).newOwed = 0) := idle
    rw [if_neg idle, if_neg also]
    split
    · rfl
    · rfl
    · rfl
    · rfl
    · exact headerWithBase { r with oldOwed := 0, newOwed := 0 } c line

theorem linesWithBase (r : Reader) (c : ChangedLines) (lines : List (List Char)) :
    lines.foldl step (r.withBase c) = (lines.foldl step r).withBase c := by
  induction lines generalizing r with
  | nil => rfl
  | cons line lines ih => rw [List.foldl_cons, stepWithBase, ih, List.foldl_cons]

/- Whatever the reader was in the middle of, a section starts as it does at the start of a diff. -/
theorem stepOpening (r : Reader) (rest : List Char) :
    r.step (opening ++ rest) = (start.step (opening ++ rest)).withBase r.settle := by
  have opened : ∀ q : Reader, q.oldOwed = 0 → q.newOwed = 0 → q.header (opening ++ rest) =
      ⟨q.settle, none, (headerPath? rest).map String.ofList, 0, 0⟩ := by
    rintro ⟨changes, current, announced, _, _⟩ rfl rfl
    rfl
  have begun : start.step (opening ++ rest) =
      ⟨.empty, none, (headerPath? rest).map String.ofList, 0, 0⟩ := opened start rfl rfl
  rw [begun]
  by_cases idle : r.oldOwed = 0 ∧ r.newOwed = 0
  · have headed : r.step (opening ++ rest) = r.header (opening ++ rest) := if_pos idle
    rw [headed]
    exact opened r idle.1 idle.2
  · have ended : r.step (opening ++ rest) =
        { r with oldOwed := 0, newOwed := 0 }.header (opening ++ rest) := if_neg idle
    rw [ended]
    exact opened _ rfl rfl

end Reader

theorem ofDiffAppend {a b : String} (ended : a = "" ∨ a.toList.getLast? = some '\n')
    (opens : opening <+: b.toList) :
    ChangedLines.ofDiff (a ++ b) = (ChangedLines.ofDiff a).union (ChangedLines.ofDiff b) := by
  have endedLines : a.toList = [] ∨ a.toList.getLast? = some '\n' :=
    ended.imp_left (fun empty => by rw [empty]; rfl)
  obtain ⟨rest, later, read⟩ := Text.linesStart (by decide) (by decide) (by decide) opens
  rw [ChangedLines.ofDiff, String.toList_append, Text.linesAppend endedLines, List.foldl_append,
    ChangedLines.ofDiff, ChangedLines.ofDiff, read, List.foldl_cons, List.foldl_cons,
    Reader.stepOpening, Reader.linesWithBase, Reader.settleWithBase]

theorem ofDiffJoin {sections : List String} (each : ∀ s ∈ sections, IsSection s) :
    ChangedLines.ofDiff (String.join sections) =
      sections.foldr (fun s c => (ChangedLines.ofDiff s).union c) .empty := by
  induction sections with
  | nil => rfl
  | cons s later ih =>
    have behind := ih (fun t inside => each t (List.mem_cons_of_mem s inside))
    rw [List.foldr_cons, ← behind, String.join_cons]
    cases later with
    | nil =>
      show ChangedLines.ofDiff (s ++ "") = _
      rw [String.append_empty]
      exact (ChangedLines.unionEmpty _).symm
    | cons t later =>
      have opens : opening <+: (String.join (t :: later)).toList := by
        rw [String.join_cons, String.toList_append]
        exact (each t (by simp)).1.trans (List.prefix_append _ _)
      exact ofDiffAppend (Or.inr (each s (by simp)).2) opens

theorem ofDiffOrder {xs ys : List String} (each : ∀ s ∈ xs, IsSection s) (order : xs.Perm ys) :
    ChangedLines.ofDiff (String.join xs) = ChangedLines.ofDiff (String.join ys) := by
  have leftComm : LeftCommutative
      (fun (s : String) (c : ChangedLines) => (ChangedLines.ofDiff s).union c) := by
    refine ⟨fun s t c => ?_⟩
    rw [← ChangedLines.unionAssoc, ChangedLines.unionComm (ChangedLines.ofDiff s),
      ChangedLines.unionAssoc]
  rw [ofDiffJoin each, ofDiffJoin (fun s inside => each s (order.mem_iff.mpr inside))]
  exact order.foldr_eq _

theorem sectionsIndependent :
    (∀ a b : String, (a = "" ∨ a.toList.getLast? = some '\n') → opening <+: b.toList → ∀ file,
      (ChangedLines.ofDiff (a ++ b)).lines? file =
        Option.merge LineSet.union ((ChangedLines.ofDiff a).lines? file)
          ((ChangedLines.ofDiff b).lines? file)) ∧
    ∀ xs ys : List String, (∀ s ∈ xs, IsSection s) → xs.Perm ys →
      ChangedLines.ofDiff (String.join xs) = ChangedLines.ofDiff (String.join ys) := by
  refine ⟨fun a b ended opens file => ?_, fun xs ys each order => ofDiffOrder each order⟩
  rw [ofDiffAppend ended opens, ChangedLines.linesUnion]

def cutOff : String := "+++ b/x\n@@ -1,4 +3,2 @@\n-a\n"

def renameSection : String := "diff --git a/o b/n\nrename from o\nrename to n\n"

def hunkSection : String :=
  "diff --git a/x b/x\n+++ b/x\n@@ -9 +9 @@\n-+++ b/z\n+@@\n"

set_option maxRecDepth 10000 in
theorem cutOffIndependent :
    cutOff.toList.getLast? = some '\n' ∧ opening <+: hunkSection.toList ∧
      (∀ s ∈ [renameSection, hunkSection], IsSection s) ∧
      ((ChangedLines.ofDiff (cutOff ++ hunkSection)).lines? "x").map LineSet.toList =
        some [3, 4, 9] ∧
      (∀ file, (ChangedLines.ofDiff (cutOff ++ hunkSection)).lines? file =
        Option.merge LineSet.union ((ChangedLines.ofDiff cutOff).lines? file)
          ((ChangedLines.ofDiff hunkSection).lines? file)) ∧
      ChangedLines.ofDiff (String.join [renameSection, hunkSection]) =
        ChangedLines.ofDiff (String.join [hunkSection, renameSection]) := by
  have each : ∀ s ∈ [renameSection, hunkSection], IsSection s := by
    intro s inside
    rcases List.mem_cons.mp inside with rfl | inside
    · exact ⟨by decide, by decide⟩
    · rw [List.mem_singleton.mp inside]
      exact ⟨by decide, by decide⟩
  have united := sectionsIndependent.1 cutOff hunkSection (Or.inr (by decide)) (by decide)
  refine ⟨by decide, by decide, each, ?_, united, ?_⟩
  · rw [united]
    decide
  · exact sectionsIndependent.2 _ _ each (List.Perm.swap _ _ [])

end LintGate.Diff
