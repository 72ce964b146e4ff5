import LintGate.Change.Index
import LintGate.Text.Cut
import LintGate.Text.Digit
import LintGate.Text.Lines
import LintGate.Text.Numeral

/-! Reading the changed lines off a unified diff. Diffs are expected without context lines, so
that all lines that a hunk covers on the new side were added or modified. A deleted file is
not part of the change; a file that has header lines only is part of it with no lines. -/
namespace LintGate

namespace Diff

structure Hunk where
  oldCount : Nat
  newStart : Nat
  newCount : Nat
deriving DecidableEq, Repr

def Hunk.newLines (h : Hunk) : List Nat :=
  -- The last number that fits in 32 bits is never one of the lines.
  List.range' h.newStart (min (h.newStart + h.newCount) (Text.limit32 - 1) - h.newStart)

def number? (cs : List Char) : Option (List Char × List Char) :=
  match cs.takeWhile Text.isDecimalDigit with
  | [] => none
  | run => some (run, cs.dropWhile Text.isDecimalDigit)

def count (cs : List Char) : List Char × List Char :=
  match cs with
  | ',' :: rest => (number? rest).getD (['1'], cs)
  | _ => (['1'], cs)

def hunkNumerals? (line : List Char) : Option (List Char × List Char × List Char) := do
  let rest ← Text.after? "@@ -".toList line
  let (_, rest) ← number? rest
  let (oldCount, rest) := count rest
  let rest ← Text.after? " +".toList rest
  let (newStart, rest) ← number? rest
  let (newCount, rest) := count rest
  let _ ← Text.after? " @@".toList rest
  some (oldCount, newStart, newCount)

def hunk? (line : List Char) : Option Hunk := do
  let (oldCount, newStart, newCount) ← hunkNumerals? line
  let newStart ← Text.unsigned? Text.limit32 newStart
  let oldCount ← Text.unsigned? Text.limit32 oldCount
  let newCount ← Text.unsigned? Text.limit32 newCount
  some ⟨oldCount, newStart, newCount⟩

def withoutSide (path : List Char) : List Char :=
  ((Text.after? "b/".toList path).orElse (fun _ => Text.after? "a/".toList path)).getD path

/-- The new-side path of a section header. Paths may hold spaces, so the header is cut at its
last ` b/`; without one, its second word is the path. -/
def headerPath? (header : List Char) : Option (List Char) :=
  match Text.afterLast? " b/".toList header with
  | some path => some path
  | none => ((Text.words header)[1]?).map withoutSide

def targetPath? (rest : List Char) : Option (List Char) :=
  let target := Text.trim (rest.takeWhile (· ≠ '\t'))
  if target = "/dev/null".toList then none else some (withoutSide target)

inductive Header where
  | section (path : Option (List Char))
  | renamed (path : List Char)
  | deleted
  | target (path : Option (List Char))
  | hunk (hunk : Option Hunk)
  | other
deriving DecidableEq, Repr

def Header.ofLine (line : List Char) : Header :=
  if let some rest := Text.after? "diff --git ".toList line then .section (headerPath? rest)
  else if let some rest := Text.after? "rename to ".toList line then .renamed (Text.trim rest)
  else if Text.startsWith "deleted file mode".toList line then .deleted
  else if let some rest := Text.after? "+++ ".toList line then .target (targetPath? rest)
  else if Text.startsWith "@@".toList line then .hunk (hunk? line)
  else .other

/-- A reader between lines: the file whose hunks follow, the file that was announced and has
had no target line, and the lines that the open hunk owes on its old and new side. -/
structure Reader where
  changes : ChangedLines
  current : Option String
  announced : Option String
  oldOwed : Nat
  newOwed : Nat
deriving DecidableEq, Repr

namespace Reader

def start : Reader := ⟨.empty, none, none, 0, 0⟩

def settle (r : Reader) : ChangedLines :=
  match r.announced with
  | none => r.changes
  | some file => r.changes.touch file

def header (r : Reader) (line : List Char) : Reader :=
  match Header.ofLine line with
  | .section path =>
    { r with changes := r.settle, current := none, announced := path.map String.ofList }
  | .renamed path => { r with announced := some (String.ofList path) }
  | .deleted => { r with announced := none }
  | .target none => { r with current := none, announced := none }
  | .target (some path) =>
    let file := String.ofList path
    { r with changes := r.changes.touch file, current := some file, announced := none }
  | .hunk (some hunk) =>
    match r.current with
    | none => r
    | some file =>
      { r with
        changes := r.changes.extend file hunk.newLines
        oldOwed := hunk.oldCount
        newOwed := hunk.newCount }
  | .hunk none => r
  | .other => r

/-- Takes one line. While a hunk owes lines, a line that starts like a body line is one; any
other line ends the hunk. -/
def step (r : Reader) (line : List Char) : Reader :=
  if r.oldOwed = 0 ∧ r.newOwed = 0 then r.header line
  else match line with
    | '+' :: _ => { r with newOwed := r.newOwed - 1 }
    | '-' :: _ => { r with oldOwed := r.oldOwed - 1 }
    | ' ' :: _ => { r with oldOwed := r.oldOwed - 1, newOwed := r.newOwed - 1 }
    | '\\' :: _ => r
    | _ => { r with oldOwed := 0, newOwed := 0 }.header line

end Reader

end Diff

def ChangedLines.ofDiff (text : String) : ChangedLines :=
  ((Text.lines text.toList).foldl Diff.Reader.step Diff.Reader.start).settle

end LintGate
