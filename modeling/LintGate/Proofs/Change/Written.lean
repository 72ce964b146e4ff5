import LintGate.Change.Diff
import LintGate.Proofs.Text.Numeral
import LintGate.Proofs.Text.Printed

/-! Diffs as they are written: a list of sections, one for each file, with the lines of its hunks
in full. The text of a body line is arbitrary, so it may look like any header. Beside the written
form stands what a section says about its file: the path, and the new-side lines it covers. -/
namespace LintGate.Diff
open Text (Line)

def marks : List (List Char) :=
  ["diff --git ".toList, "rename to ".toList, "deleted file mode".toList, "+++ ".toList,
    "@@".toList]

structure ExtendedLine where
  line : Line
  unmarked : ∀ mark ∈ marks, ¬ mark <+: line.chars

inductive BodyLine where
  | removed (text : Line)
  | added (text : Line)
  | context (text : Line)
  | note (text : Line)
deriving DecidableEq, Repr

namespace BodyLine

def onOld : BodyLine → Bool
  | removed _ | context _ => true
  | added _ | note _ => false

@[simp] def onNew : BodyLine → Bool
  | added _ | context _ => true
  | removed _ | note _ => false

def isContext : BodyLine → Bool
  | context _ => true
  | _ => false

def line : BodyLine → Line
  | removed text => ⟨['-'], by decide⟩ ++ text
  | added text => ⟨['+'], by decide⟩ ++ text
  | context text => ⟨[' '], by decide⟩ ++ text
  | note text => ⟨['\\'], by decide⟩ ++ text

@[simp] def addedFrom (n : Nat) : List BodyLine → List Nat
  | [] => []
  | added _ :: rest => n :: addedFrom (n + 1) rest
  | context _ :: rest => addedFrom (n + 1) rest
  | removed _ :: rest | note _ :: rest => addedFrom n rest

end BodyLine

def numeralLine (n : Nat) : Line :=
  ⟨Text.numeral n, fun inside => absurd (Text.numeralDigit inside) (by decide)⟩

def countLine (short : Bool) (n : Nat) : Line :=
  if short && n == 1 then .empty else ⟨[','], by decide⟩ ++ numeralLine n

/- A hunk with its body. The counts are those of the body and fit in 32 bits, and so does the
number of the line behind the last one. -/
structure WrittenHunk where
  oldStart : Nat
  newStart : Nat
  shortOld : Bool
  shortNew : Bool
  heading : Line
  body : List BodyLine
  oldFits : body.countP BodyLine.onOld < Text.limit32
  newFits : newStart + body.countP BodyLine.onNew < Text.limit32

namespace WrittenHunk

def oldCount (h : WrittenHunk) : Nat := h.body.countP BodyLine.onOld

def newCount (h : WrittenHunk) : Nat := h.body.countP BodyLine.onNew

def headerLine (h : WrittenHunk) : Line :=
  ⟨"@@ -".toList, by decide⟩ ++ numeralLine h.oldStart ++ countLine h.shortOld h.oldCount ++
    ⟨" +".toList, by decide⟩ ++ numeralLine h.newStart ++ countLine h.shortNew h.newCount ++
    ⟨" @@".toList, by decide⟩ ++ h.heading

def lines (h : WrittenHunk) : List Line := h.headerLine :: h.body.map BodyLine.line

def Covers (h : WrittenHunk) (n : Nat) : Prop := h.newStart ≤ n ∧ n < h.newStart + h.newCount

def Adds (h : WrittenHunk) (n : Nat) : Prop := n ∈ BodyLine.addedFrom h.newStart h.body

end WrittenHunk

structure Title where
  old : Line
  new : Line
  before : List ExtendedLine
  renamed : Bool
  behind : List ExtendedLine

def sectionLine (old new : Line) : Line :=
  ⟨"diff --git ".toList, by decide⟩ ++
    ((⟨"a/".toList, by decide⟩ ++ old ++ ⟨" b/".toList, by decide⟩) ++ new)

def Title.lines (t : Title) : List Line :=
  sectionLine t.old t.new :: t.before.map ExtendedLine.line ++
    (if t.renamed then [⟨"rename to ".toList, by decide⟩ ++ t.new] else []) ++
    t.behind.map ExtendedLine.line

def PlainPath (path : Line) : Prop :=
  '\t' ∉ path.chars ∧ ∀ c, path.chars.getLast? = some c → Text.isBlank c = false

/- Without the two sides the path has to be found in the title. A title that names it in a line
of its own needs a path without blanks at its ends; any other title is cut at its last ` b/`, and
its path has no return at the end. -/
structure Title.Alone (t : Title) : Prop where
  trimmed : t.renamed = true → Text.trim t.new.chars = t.new.chars
  unreturned : t.renamed = false → t.new.chars.getLast? ≠ some '\r'
  single : t.renamed = false → ¬ " b/".toList <:+: t.new.chars

def stampLine : Option Line → Line
  | none => .empty
  | some text => ⟨['\t'], by decide⟩ ++ text

def oldName (stamp : Option Line) : Option Line → Line
  | none => ⟨"/dev/null".toList, by decide⟩
  | some path => ⟨"a/".toList, by decide⟩ ++ (path ++ stampLine stamp)

def oldSideLine (old stamp : Option Line) : Line :=
  ⟨"--- ".toList, by decide⟩ ++ oldName stamp old

def newSideLine (new : Line) (stamp : Option Line) : Line :=
  ⟨"+++ ".toList, by decide⟩ ++ (⟨"b/".toList, by decide⟩ ++ (new ++ stampLine stamp))

inductive FileSection where
  | changed (title : Title) (created : Bool) (oldStamp newStamp : Option Line)
      (hunks : List WrittenHunk)
  | deleted (old : Line) (before : List ExtendedLine) (mode : Line) (behind : List ExtendedLine)
      (stamp : Option Line) (hunks : List WrittenHunk)
      (gone : ∀ h ∈ hunks, ∀ b ∈ h.body, b.onNew = false)
  | titleOnly (title : Title) (alone : title.Alone)

namespace FileSection

def lines : FileSection → List Line
  | changed title created oldStamp newStamp hunks =>
    title.lines ++ oldSideLine (if created then none else some title.old) oldStamp ::
      newSideLine title.new newStamp :: hunks.flatMap WrittenHunk.lines
  | deleted old before mode behind stamp hunks _ =>
    sectionLine old old :: before.map ExtendedLine.line ++
      (⟨"deleted file mode".toList, by decide⟩ ++ mode) :: behind.map ExtendedLine.line ++
      oldSideLine (some old) stamp :: ⟨"+++ /dev/null".toList, by decide⟩ ::
      hunks.flatMap WrittenHunk.lines
  | titleOnly title _ => title.lines

def path : FileSection → Option String
  | changed title .. => some (String.ofList title.new.chars)
  | deleted .. => none
  | titleOnly title _ => some (String.ofList title.new.chars)

def recorded : FileSection → Option String
  | changed title .. =>
    some (String.ofList (Text.trimEnd (title.new.chars.takeWhile (· ≠ '\t'))))
  | deleted .. => none
  | titleOnly title _ => some (String.ofList title.new.chars)

def KeepsPath : FileSection → Prop
  | changed title .. => PlainPath title.new
  | deleted .. => True
  | titleOnly .. => True

def PlainTitle : FileSection → Prop
  | changed .. => True
  | deleted .. => True
  | titleOnly title _ => PlainPath title.new

def hunks : FileSection → List WrittenHunk
  | changed _ _ _ _ hunks => hunks
  | deleted .. => []
  | titleOnly .. => []

def Covers (s : FileSection) (n : Nat) : Prop := ∃ h ∈ s.hunks, h.Covers n

def Adds (s : FileSection) (n : Nat) : Prop := ∃ h ∈ s.hunks, h.Adds n

def WithoutContext (s : FileSection) : Prop :=
  ∀ h ∈ s.hunks, ∀ b ∈ h.body, b.isContext = false

end FileSection

def written (sections : List FileSection) : String :=
  String.ofList (Text.printed (sections.flatMap FileSection.lines))

/- The change consists of the sections, with the files named by `name`: its files are theirs, and
its lines are the lines that they cover. -/
def Describes (name : FileSection → Option String) (sections : List FileSection)
    (c : ChangedLines) : Prop :=
  (∀ file, c.isTouched file = true ↔ ∃ s ∈ sections, name s = some file) ∧
    ∀ file n, c.contains file n = true ↔ ∃ s ∈ sections, name s = some file ∧ s.Covers n

theorem addedFromCovers {body : List BodyLine} (bare : ∀ b ∈ body, b.isContext = false)
    (start n : Nat) :
    n ∈ BodyLine.addedFrom start body ↔
      start ≤ n ∧ n < start + body.countP BodyLine.onNew := by
  induction body generalizing start with
  | nil => simp
  | cons b body ih =>
    have rest := ih (fun x inside => bare x (List.mem_cons_of_mem b inside))
    cases b with
    | removed text => simpa using rest start
    | note text => simpa using rest start
    | context text => cases bare (.context text) List.mem_cons_self
    | added text =>
      rw [BodyLine.addedFrom, List.mem_cons, rest, List.countP_cons_of_pos rfl]
      omega

theorem FileSection.addsIffCovers {s : FileSection} (bare : s.WithoutContext) (n : Nat) :
    s.Adds n ↔ s.Covers n :=
  exists_congr (fun h => and_congr_right (fun inside =>
    addedFromCovers (bare h inside) h.newStart n))

end LintGate.Diff
