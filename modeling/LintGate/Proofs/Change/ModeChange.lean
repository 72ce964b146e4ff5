import LintGate.Proofs.Change.Reading

/-! Sections that change the mode of a file and nothing else. Such a section names its file only in
its title, twice and with nothing between the two names that could not be part of a name. A reader
finds the right name when the path does not itself hold the mark of the new side; from any other
path it keeps what stands behind the last such mark. -/
namespace LintGate.Diff
open Text (Line)

def printable (c : Char) : Bool :=
  0x20 ≤ c.toNat && c.toNat != 0x7F && c != '"' && c != '\\'

structure Unquoted (path : String) : Prop where
  filled : path ≠ ""
  plain : path.toList.all printable = true

def modeChange (path : String) : String :=
  String.ofList ("diff --git a/".toList ++ path.toList ++ " b/".toList ++ path.toList ++
    "\nold mode 100644\nnew mode 100755\n".toList)

def modeLines : List Line :=
  [⟨"old mode 100644".toList, by decide⟩, ⟨"new mode 100755".toList, by decide⟩]

theorem unquotedFree {path : String} (unquoted : Unquoted path) {c : Char}
    (control : printable c = false) : c ∉ path.toList := by
  intro inside
  have plain := List.all_eq_true.mp unquoted.plain c inside
  rw [control] at plain
  cases plain

theorem modeChangeLines {path : String} (unquoted : Unquoted path) :
    ∃ l : Line, l.chars = path.toList ∧ l.seen = path.toList ∧
      (modeChange path).toList = Text.printed (sectionLine l l :: modeLines) := by
  refine ⟨⟨path.toList, unquotedFree unquoted (by decide)⟩, rfl, ?_, ?_⟩
  · have inner : path.toList.getLast? ≠ some '\r' :=
      fun last => unquotedFree unquoted (by decide) (List.mem_of_getLast? last)
    exact if_neg inner
  · have title : "diff --git a/".toList = "diff --git ".toList ++ "a/".toList := by decide
    have modes : "\nold mode 100644\nnew mode 100755\n".toList =
        '\n' :: Text.printed modeLines := by decide
    refine String.toList_ofList.trans ?_
    rw [title, modes]
    simp [Text.printed, sectionLine]

theorem modeChangeTitle {path : String} (unquoted : Unquoted path) {name : List Char}
    (found : headerPath? ("a/".toList ++ path.toList ++ " b/".toList ++ path.toList) = some name) :
    (ChangedLines.ofDiff (modeChange path)).entries = [(String.ofList name, .empty)] := by
  obtain ⟨l, chars, seen, printed⟩ := modeChangeLines unquoted
  have other : ∀ mode ∈ modeLines, Header.ofLine mode.seen = .other := by decide
  rw [ChangedLines.ofDiff, printed, Text.linesPrinted]
  show ((Reader.start.run (sectionLine l l :: modeLines)).settle).entries = _
  rw [Reader.runCons, Reader.stepSection ⟨rfl, rfl⟩, Reader.runOther ⟨rfl, rfl⟩ other, chars, seen,
    found]
  rfl

theorem modeChangeCut {path : String} (unquoted : Unquoted path) {front rest : List Char}
    (same : path.toList = front ++ " b/".toList ++ rest) (free : ¬ " b/".toList <:+: rest) :
    (ChangedLines.ofDiff (modeChange path)).entries = [(String.ofList rest, .empty)] := by
  have found := headerPathBehind ("a/".toList ++ path.toList ++ " b/".toList ++ front) free
  rw [List.append_assoc, List.append_assoc _ front, ← List.append_assoc front, ← same] at found
  exact modeChangeTitle unquoted found

theorem modeChangeWhole {path : String} (unquoted : Unquoted path)
    (free : ¬ " b/".toList <:+: path.toList) :
    (ChangedLines.ofDiff (modeChange path)).entries = [(path, .empty)] := by
  have title := modeChangeTitle unquoted (headerPathBehind _ free)
  rwa [String.ofList_toList] at title

theorem modeChangeTouches (path : String) (unquoted : Unquoted path) :
    let changes := ChangedLines.ofDiff (modeChange path)
    (changes.entries = [(path, .empty)] ↔ ¬ " b/".toList <:+: path.toList) ∧
    (∀ front rest, path.toList = front ++ " b/".toList ++ rest → ¬ " b/".toList <:+: rest →
      changes.entries = [(String.ofList rest, .empty)] ∧ changes.isTouched path = false) := by
  intro changes
  have shorter : ∀ front rest, path.toList = front ++ " b/".toList ++ rest →
      path ≠ String.ofList rest := by
    intro front rest same equal
    rw [equal, String.toList_ofList] at same
    have long := congrArg List.length same
    rw [List.length_append, List.length_append] at long
    have mark : " b/".toList.length = 3 := rfl
    omega
  refine ⟨⟨fun touched inside => ?_, modeChangeWhole unquoted⟩, fun front rest same free => ?_⟩
  · obtain ⟨front, rest, same, free⟩ := Text.lastOccurrence (by decide) inside
    have other : changes.entries = _ := modeChangeCut unquoted same free
    rw [other] at touched
    simp only [List.cons.injEq, Prod.mk.injEq, and_true] at touched
    exact shorter front rest same touched.symm
  · have other : changes.entries = _ := modeChangeCut unquoted same free
    refine ⟨other, ?_⟩
    rw [ChangedLines.isTouched, ChangedLines.lines?, other,
      Named.lookupOther (shorter front rest same)]
    rfl

theorem spacedPathTouched :
    Unquoted "my dir/run me " ∧
      (ChangedLines.ofDiff (modeChange "my dir/run me ")).entries =
        [("my dir/run me ", .empty)] := by
  have unquoted : Unquoted "my dir/run me " := ⟨by decide, by decide⟩
  have free : ¬ " b/".toList <:+: "my dir/run me ".toList :=
    fun inside => absurd (Text.containsIff.mpr inside) (by decide)
  exact ⟨unquoted, (modeChangeTouches _ unquoted).1.mpr free⟩

/- A directory whose name ends in ` b`. The same path is found when the section has a target
line. -/
theorem innerMarkLost :
    Unquoted "x b/y" ∧
      modeChange "x b/y" = "diff --git a/x b/y b/x b/y\nold mode 100644\nnew mode 100755\n" ∧
      (ChangedLines.ofDiff (modeChange "x b/y")).entries = [("y", .empty)] ∧
      (ChangedLines.ofDiff (modeChange "x b/y" ++ "+++ b/x b/y\n")).entries =
        [("x b/y", .empty)] :=
  ⟨⟨by decide, by decide⟩, by decide +kernel, by decide +kernel, by decide +kernel⟩

end LintGate.Diff
