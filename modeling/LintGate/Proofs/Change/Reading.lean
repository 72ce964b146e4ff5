import LintGate.Proofs.Change.HeaderLine
import LintGate.Proofs.Change.Index
import LintGate.Proofs.Text.Trimmed

/-! Reading a written diff gives back its sections. A hunk and a section are runs of lines, and
between them the reader owes no lines: this is what keeps body lines apart from headers. A
deleted file is the exception, because its hunks are not counted; there the first character of
a body line is enough. -/
namespace LintGate.Diff
open Text (Line)

namespace Reader

def run (r : Reader) (ls : List Line) : Reader := (ls.map Line.seen).foldl step r

@[simp] theorem runCons (r : Reader) (l : Line) (ls : List Line) :
    r.run (l :: ls) = (r.step l.seen).run ls := rfl

@[simp] theorem runAppend (r : Reader) (ls ms : List Line) :
    r.run (ls ++ ms) = (r.run ls).run ms := by
  rw [run, List.map_append, List.foldl_append]
  rfl

def Idle (r : Reader) : Prop := r.oldOwed = 0 ∧ r.newOwed = 0

theorem idleBetween (changes : ChangedLines) (current announced : Option String) :
    (⟨changes, current, announced, 0, 0⟩ : Reader).Idle := ⟨rfl, rfl⟩

theorem stepIdle {r : Reader} (idle : r.Idle) (line : List Char) : r.step line = r.header line :=
  if_pos idle

theorem stepOther {r : Reader} (idle : r.Idle) {line : List Char}
    (other : Header.ofLine line = .other) : r.step line = r := by
  rw [stepIdle idle, header, other]

theorem runOther {r : Reader} (idle : r.Idle) {ls : List Line}
    (other : ∀ l ∈ ls, Header.ofLine l.seen = .other) : r.run ls = r := by
  induction ls with
  | nil => rfl
  | cons l ls ih =>
    rw [runCons, stepOther idle (other l List.mem_cons_self)]
    exact ih (fun x inside => other x (List.mem_cons_of_mem l inside))

theorem runExtended {r : Reader} (idle : r.Idle) (es : List ExtendedLine) :
    r.run (es.map ExtendedLine.line) = r := by
  refine runOther idle (fun l inside => ?_)
  obtain ⟨e, _, rfl⟩ := List.mem_map.mp inside
  exact extendedSeen e

end Reader

section Hunks

def BodyLine.oldPart (b : BodyLine) : Nat := if b.onOld then 1 else 0

def BodyLine.newPart (b : BodyLine) : Nat := if b.onNew then 1 else 0

theorem oldOnlySeen {b : BodyLine} (oldOnly : b.onNew = false) :
    Header.ofLine b.line.seen = .other := by
  cases b with
  | removed text =>
    rw [BodyLine.line, seenAppend (by decide)]
    rfl
  | note text =>
    rw [BodyLine.line, seenAppend (by decide)]
    rfl
  | added text => cases oldOnly
  | context text => cases oldOnly

/- A line that the hunk still owes on each of its sides is taken off what is owed. A note
belongs to no side, so it may come when nothing is owed any more. -/
theorem Reader.stepBody (r : Reader) (b : BodyLine) (old : b.oldPart ≤ r.oldOwed)
    (new : b.newPart ≤ r.newOwed) :
    r.step b.line.seen =
      { r with oldOwed := r.oldOwed - b.oldPart, newOwed := r.newOwed - b.newPart } := by
  by_cases idle : r.Idle
  · cases b with
    | note text =>
      rw [Reader.stepOther idle (oldOnlySeen rfl)]
      rfl
    | removed text => simp [BodyLine.oldPart, BodyLine.onOld, idle.1] at old
    | added text => simp [BodyLine.newPart, BodyLine.onNew, idle.2] at new
    | context text => simp [BodyLine.oldPart, BodyLine.onOld, idle.1] at old
  · cases b
    all_goals
      rw [BodyLine.line, seenAppend (by decide)]
      exact if_neg idle

theorem Reader.runBody (body : List BodyLine) (r : Reader)
    (old : r.oldOwed = body.countP BodyLine.onOld) (new : r.newOwed = body.countP BodyLine.onNew) :
    r.run (body.map BodyLine.line) = { r with oldOwed := 0, newOwed := 0 } := by
  induction body generalizing r with
  | nil =>
    obtain ⟨changes, current, announced, oldOwed, newOwed⟩ := r
    cases old
    cases new
    rfl
  | cons b body ih =>
    rw [List.countP_cons] at old new
    have oldLeft : b.oldPart ≤ r.oldOwed := by rw [old]; exact Nat.le_add_left _ _
    have newLeft : b.newPart ≤ r.newOwed := by rw [new]; exact Nat.le_add_left _ _
    rw [List.map_cons, Reader.runCons, Reader.stepBody r b oldLeft newLeft]
    refine ih _ ?_ ?_
    · show r.oldOwed - b.oldPart = _
      rw [old]
      exact Nat.add_sub_cancel _ _
    · show r.newOwed - b.newPart = _
      rw [new]
      exact Nat.add_sub_cancel _ _

theorem headerLineOfHunk (h : WrittenHunk) :
    Header.ofLine h.headerLine.seen = .hunk (some h.summary) := by
  have marked : ∀ rest, Header.ofLine ("@@ -".toList ++ rest) =
      .hunk (hunk? ("@@ -".toList ++ rest)) := fun _ => rfl
  rw [← hunkSeen, headerLineSeen, marked]

theorem Reader.runHunk (h : WrittenHunk) {r : Reader} (idle : r.Idle) {file : String}
    (current : r.current = some file) :
    r.run h.lines = { r with changes := r.changes.extend file h.summary.newLines } := by
  rw [WrittenHunk.lines, runCons, stepIdle idle, header, headerLineOfHunk]
  simp only [current]
  rw [runBody h.body _ rfl rfl]
  obtain ⟨changes, current, announced, oldOwed, newOwed⟩ := r
  cases idle.1
  cases idle.2
  rfl

theorem Reader.runHunks (hunks : List WrittenHunk) {r : Reader} (idle : r.Idle) {file : String}
    (current : r.current = some file) :
    r.run (hunks.flatMap WrittenHunk.lines) =
      { r with
        changes := hunks.foldl (fun c h => c.extend file h.summary.newLines) r.changes } := by
  induction hunks generalizing r with
  | nil => rfl
  | cons h hunks ih =>
    rw [List.flatMap_cons, runAppend, runHunk h idle current]
    exact ih idle current

theorem Reader.runGone {hunks : List WrittenHunk}
    (gone : ∀ h ∈ hunks, ∀ b ∈ h.body, b.onNew = false) {r : Reader} (idle : r.Idle)
    (absent : r.current = none) : r.run (hunks.flatMap WrittenHunk.lines) = r := by
  induction hunks with
  | nil => rfl
  | cons h hunks ih =>
    have skipped : r.step h.headerLine.seen = r := by
      rw [stepIdle idle, header, headerLineOfHunk]
      simp only [absent]
    have other : ∀ l ∈ h.body.map BodyLine.line, Header.ofLine l.seen = .other := by
      intro l inside
      obtain ⟨b, member, rfl⟩ := List.mem_map.mp inside
      exact oldOnlySeen (gone h List.mem_cons_self b member)
    rw [List.flatMap_cons, runAppend, WrittenHunk.lines, runCons, skipped, runOther idle other]
    exact ih (fun x inside => gone x (List.mem_cons_of_mem h inside))

end Hunks

section Sections

theorem headerPathBehind (before : List Char) {path : List Char} (free : ¬ " b/".toList <:+: path) :
    headerPath? (before ++ " b/".toList ++ path) = some path := by
  have absent : Text.contains " b/".toList path = false :=
    Bool.eq_false_iff.mpr (fun inside => free (Text.containsIff.mp inside))
  have found : Text.afterLast? " b/".toList (before ++ " b/".toList ++ path) = some path :=
    Text.afterLastPrinted (by decide) absent before
  rw [headerPath?, found]

theorem aloneHeaderPath {t : Title} (alone : t.Alone) (whole : t.renamed = false) :
    headerPath? ("a/".toList ++ t.old.chars ++ " b/".toList ++ t.new.seen) = some t.new.chars := by
  rw [Line.seen, Text.dropReturn, if_neg (alone.unreturned whole)]
  exact headerPathBehind _ (alone.single whole)

theorem aloneTrimmed {t : Title} (alone : t.Alone) (renamed : t.renamed = true) :
    Text.trim t.new.seen = t.new.chars := by
  have trimmed := alone.trimmed renamed
  rw [Line.seen, Text.dropReturnTrimmed (Text.trimFixed.mp trimmed).2, trimmed]

theorem Reader.stepSection {r : Reader} (idle : r.Idle) (old new : Line) :
    r.step (sectionLine old new).seen = ⟨r.settle, none,
      (headerPath? ("a/".toList ++ old.chars ++ " b/".toList ++ new.seen)).map String.ofList,
      0, 0⟩ := by
  rw [stepIdle idle, header, sectionSeen]
  dsimp only
  rw [idle.1, idle.2]

theorem Reader.runTitle (t : Title) {r : Reader} (idle : r.Idle) :
    ∃ announced, r.run t.lines = ⟨r.settle, none, announced, 0, 0⟩ ∧
      (t.Alone → announced = some (String.ofList t.new.chars)) := by
  rw [Title.lines, runAppend, List.cons_append, runCons, runAppend, stepSection idle,
    runExtended (idleBetween _ _ _)]
  cases renamed : t.renamed with
  | false =>
    refine ⟨_, runExtended (idleBetween _ _ _) t.behind, fun alone => ?_⟩
    rw [aloneHeaderPath alone renamed, Option.map_some]
  | true =>
    have told : ∀ r : Reader, r.Idle →
        r.run [(⟨"rename to ".toList, by decide⟩ ++ t.new : Line)] =
          { r with announced := some (String.ofList (Text.trim t.new.seen)) } := by
      intro r idle
      rw [runCons, stepIdle idle, header, renameSeen]
      rfl
    rw [if_pos rfl, told _ (idleBetween _ _ _)]
    refine ⟨_, runExtended (idleBetween _ _ _) t.behind, fun alone => ?_⟩
    rw [aloneTrimmed alone renamed]

def FileSection.apply (s : FileSection) (c : ChangedLines) : ChangedLines :=
  match s.recorded with
  | none => c
  | some file => s.hunks.foldl (fun c h => c.extend file h.summary.newLines) (c.touch file)

/- The mode line takes the announcement back and the null device opens no file, so nothing is
left of a deleted file when its hunks come. -/
theorem Reader.runDeleted {hunks : List WrittenHunk}
    (gone : ∀ h ∈ hunks, ∀ b ∈ h.body, b.onNew = false) {r : Reader} (idle : r.Idle) (old : Line)
    (before : List ExtendedLine) (mode : Line) (behind : List ExtendedLine) (stamp : Option Line) :
    r.run (FileSection.deleted old before mode behind stamp hunks gone).lines =
      ⟨r.settle, none, none, 0, 0⟩ := by
  obtain ⟨announced, opened⟩ : ∃ announced,
      r.run (sectionLine old old :: before.map ExtendedLine.line) =
        ⟨r.settle, none, announced, 0, 0⟩ :=
    ⟨_, by rw [runCons, stepSection idle, runExtended (idleBetween _ _ _)]⟩
  have withdrawn : (⟨r.settle, none, announced, 0, 0⟩ : Reader).step
      (⟨"deleted file mode".toList, by decide⟩ ++ mode : Line).seen =
        ⟨r.settle, none, none, 0, 0⟩ := by
    rw [stepIdle (idleBetween _ _ _), header, deletedSeen]
  have unopened : (⟨r.settle, none, none, 0, 0⟩ : Reader).step
      (⟨"+++ /dev/null".toList, by decide⟩ : Line).seen = ⟨r.settle, none, none, 0, 0⟩ := by
    rw [stepIdle (idleBetween _ _ _), header, nullSideSeen]
  rw [FileSection.lines, runAppend, runAppend, opened, runCons, runCons, runCons, withdrawn,
    runExtended (idleBetween _ _ _), stepOther (idleBetween _ _ _) (oldSideSeen _ _), unopened,
    runGone gone (idleBetween _ _ _) rfl]

theorem Reader.runSection (s : FileSection) {r : Reader} (idle : r.Idle) :
    (r.run s.lines).Idle ∧ (r.run s.lines).settle = s.apply r.settle := by
  cases s with
  | changed title created oldStamp newStamp hunks =>
    obtain ⟨announced, opened, _⟩ := runTitle title idle
    rw [FileSection.lines, runAppend, opened, runCons,
      stepOther (idleBetween _ _ _) (oldSideSeen _ _), runCons, stepIdle (idleBetween _ _ _),
      header, newSideSeen]
    dsimp only
    rw [runHunks hunks (idleBetween _ _ _) rfl]
    exact ⟨idleBetween _ _ _, rfl⟩
  | deleted old before mode behind stamp hunks gone =>
    rw [runDeleted gone idle]
    exact ⟨idleBetween _ _ _, rfl⟩
  | titleOnly title alone =>
    obtain ⟨announced, opened, named⟩ := runTitle title idle
    rw [FileSection.lines, opened, named alone]
    exact ⟨idleBetween _ _ _, rfl⟩

theorem Reader.runSections (sections : List FileSection) {r : Reader} (idle : r.Idle) :
    (r.run (sections.flatMap FileSection.lines)).settle =
      sections.foldl (fun c s => s.apply c) r.settle := by
  induction sections generalizing r with
  | nil => rfl
  | cons s sections ih =>
    obtain ⟨idleBehind, settled⟩ := runSection s idle
    rw [List.flatMap_cons, runAppend, ih idleBehind, settled]
    rfl

theorem ofDiffWritten (sections : List FileSection) :
    ChangedLines.ofDiff (written sections) =
      sections.foldl (fun c s => s.apply c) ChangedLines.empty := by
  rw [ChangedLines.ofDiff, written, String.toList_ofList, Text.linesPrinted]
  exact Reader.runSections sections ⟨rfl, rfl⟩

end Sections

section Described

theorem newLinesMem (h : WrittenHunk) (n : Nat) : n ∈ h.summary.newLines ↔ h.Covers n := by
  have fits : h.newStart + h.newCount ≤ Text.limit32 - 1 := Nat.le_sub_one_of_lt h.newFits
  rw [Hunk.newLines, WrittenHunk.summary, Nat.min_eq_left fits, List.mem_range'_1,
    Nat.add_sub_cancel_left]
  rfl

theorem hunksTouched (hunks : List WrittenHunk) (c : ChangedLines) {file : String}
    (touched : c.isTouched file = true) (other : String) :
    (hunks.foldl (fun c h => c.extend file h.summary.newLines) c).isTouched other = true ↔
      c.isTouched other = true := by
  induction hunks generalizing c with
  | nil => rfl
  | cons h hunks ih =>
    have extended := ChangedLines.isTouchedExtend c file h.summary.newLines
    rw [List.foldl_cons, ih _ ((extended file).mpr (Or.inr rfl)), extended other]
    refine ⟨fun either => ?_, Or.inl⟩
    rcases either with known | rfl
    · exact known
    · exact touched

theorem hunksContain (hunks : List WrittenHunk) (c : ChangedLines) (file other : String) (n : Nat) :
    (hunks.foldl (fun c h => c.extend file h.summary.newLines) c).contains other n = true ↔
      c.contains other n = true ∨ file = other ∧ ∃ h ∈ hunks, h.Covers n := by
  induction hunks generalizing c with
  | nil => simp
  | cons h hunks ih =>
    rw [List.foldl_cons, ih, ChangedLines.containsExtend, newLinesMem]
    simp only [List.mem_cons, exists_eq_or_imp, or_assoc, ← and_or_left]

theorem applyTouched (s : FileSection) (c : ChangedLines) (file : String) :
    (s.apply c).isTouched file = true ↔ c.isTouched file = true ∨ s.recorded = some file := by
  unfold FileSection.apply
  cases s.recorded with
  | none => simp
  | some name =>
    have touch := ChangedLines.isTouchedTouch c name
    rw [hunksTouched s.hunks (c.touch name) ((touch name).mpr (Or.inr rfl)), touch file]
    simp

theorem applyContains (s : FileSection) (c : ChangedLines) (file : String) (n : Nat) :
    (s.apply c).contains file n = true ↔
      c.contains file n = true ∨ s.recorded = some file ∧ s.Covers n := by
  unfold FileSection.apply
  cases s.recorded with
  | none => simp
  | some name =>
    rw [hunksContain, ChangedLines.containsTouch]
    simp [FileSection.Covers]

theorem appliedDescribed (sections : List FileSection) (c : ChangedLines) :
    (∀ file, (sections.foldl (fun c s => s.apply c) c).isTouched file = true ↔
      c.isTouched file = true ∨ ∃ s ∈ sections, s.recorded = some file) ∧
    ∀ file n, (sections.foldl (fun c s => s.apply c) c).contains file n = true ↔
      c.contains file n = true ∨ ∃ s ∈ sections, s.recorded = some file ∧ s.Covers n := by
  induction sections generalizing c with
  | nil => simp
  | cons s sections ih =>
    obtain ⟨touched, contained⟩ := ih (s.apply c)
    refine ⟨fun file => ?_, fun file n => ?_⟩
    · rw [List.foldl_cons, touched, applyTouched]
      simp only [List.mem_cons, exists_eq_or_imp, or_assoc]
    · rw [List.foldl_cons, contained, applyContains]
      simp only [List.mem_cons, exists_eq_or_imp, or_assoc]

theorem recordedDescribed (sections : List FileSection) :
    Describes FileSection.recorded sections (ChangedLines.ofDiff (written sections)) := by
  rw [ofDiffWritten]
  obtain ⟨touched, contained⟩ := appliedDescribed sections ChangedLines.empty
  have untouched : ∀ file, ChangedLines.empty.isTouched file = false := fun _ => rfl
  have uncontained : ∀ file n, ChangedLines.empty.contains file n = false := fun _ _ => rfl
  simp only [untouched, uncontained, Bool.false_eq_true, false_or] at touched contained
  exact ⟨touched, contained⟩

theorem plainOfCut {cs : List Char} {path : Line}
    (same : Text.trimEnd (cs.takeWhile (· ≠ '\t')) = path.chars) : PlainPath path := by
  refine ⟨fun tab => ?_, fun c last => ?_⟩
  · rw [← same] at tab
    have taken : '\t' ∈ cs.takeWhile (· ≠ '\t') :=
      (List.rdropWhile_prefix Text.isBlank _).subset tab
    simpa using List.mem_takeWhile_imp taken
  · rw [← same] at last
    exact Text.trimEndLast _ last

theorem cutOfPlain {path : Line} (plain : PlainPath path) :
    Text.trimEnd (path.chars.takeWhile (· ≠ '\t')) = path.chars := by
  have whole : path.chars.takeWhile (· ≠ '\t') = path.chars := by
    rw [List.takeWhile_eq_self_iff]
    intro c inside
    exact decide_eq_true (fun tab => plain.1 (tab ▸ inside))
  rw [whole]
  exact Text.trimEndFixed.mpr plain.2

theorem recordedOfKeepsPath {s : FileSection} (kept : s.KeepsPath) : s.recorded = s.path := by
  cases s with
  | changed title created oldStamp newStamp hunks =>
    exact congrArg (fun cs => some (String.ofList cs)) (cutOfPlain kept)
  | deleted => rfl
  | titleOnly => rfl

theorem recordedPlain {s : FileSection} {path : Line} (plain : s.PlainTitle)
    (named : s.recorded = some (String.ofList path.chars)) : PlainPath path := by
  cases s with
  | changed title created oldStamp newStamp hunks =>
    exact plainOfCut (String.ofList_injective (Option.some.inj named))
  | deleted => cases named
  | titleOnly title alone =>
    have same : title.new.chars = path.chars := String.ofList_injective (Option.some.inj named)
    rwa [FileSection.PlainTitle, PlainPath, same] at plain

end Described

theorem ofDiffDescribes (sections : List FileSection) :
    Describes FileSection.recorded sections (ChangedLines.ofDiff (written sections)) ∧
      ((∀ s ∈ sections, s.KeepsPath) →
        Describes FileSection.path sections (ChangedLines.ofDiff (written sections))) ∧
      ((∀ s ∈ sections, s.PlainTitle) →
        Describes FileSection.path sections (ChangedLines.ofDiff (written sections)) →
          ∀ s ∈ sections, s.KeepsPath) ∧
      ((∀ s ∈ sections, s.WithoutContext) → ∀ file n,
        (ChangedLines.ofDiff (written sections)).contains file n = true ↔
          ∃ s ∈ sections, s.recorded = some file ∧ s.Adds n) := by
  have described := recordedDescribed sections
  refine ⟨described, fun kept => ?_, fun plain byPath s inside => ?_, fun bare file n => ?_⟩
  · have same : ∀ s ∈ sections, s.recorded = s.path :=
      fun s inside => recordedOfKeepsPath (kept s inside)
    refine ⟨fun file => (described.1 file).trans ?_, fun file n => (described.2 file n).trans ?_⟩
    · exact exists_congr (fun s => and_congr_right (fun inside => by rw [same s inside]))
    · exact exists_congr (fun s => and_congr_right (fun inside => by rw [same s inside]))
  · cases s with
    | changed title created oldStamp newStamp hunks =>
      have touched := (byPath.1 _).mpr ⟨_, inside, rfl⟩
      obtain ⟨other, listed, named⟩ := (described.1 _).mp touched
      exact recordedPlain (plain other listed) named
    | deleted => trivial
    | titleOnly => trivial
  · refine (described.2 file n).trans (exists_congr (fun s => and_congr_right (fun inside => ?_)))
    rw [FileSection.addsIffCovers (bare s inside)]

def blankNamed : Title := ⟨⟨"x ".toList, by decide⟩, ⟨"x ".toList, by decide⟩, [], false, []⟩

def oneReplaced : WrittenHunk :=
  ⟨1, 1, true, true, .empty, [.removed ⟨['a'], by decide⟩, .added ⟨['b'], by decide⟩],
    by decide, by decide⟩

def blankSection : FileSection :=
  .changed blankNamed false none (some .empty) [oneReplaced]

theorem blankEndLost :
    written [blankSection] =
        "diff --git a/x  b/x \n--- a/x \n+++ b/x \t\n@@ -1 +1 @@\n-a\n+b\n" ∧
      blankSection.path = some "x " ∧
      (ChangedLines.ofDiff (written [blankSection])).isTouched "x " = false ∧
      (ChangedLines.ofDiff (written [blankSection])).contains "x" 1 = true := by
  decide

end LintGate.Diff
