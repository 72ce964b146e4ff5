import LintGate.Proofs.Change.Union
import LintGate.Proofs.History
import LintGate.Proofs.Text.ByteOrder

/-! A change as the outcome of the edits made to it. The edits of one file since it was last taken
out decide all that the change says about it: any of them touches the file, and the lines they
supply are its lines. -/
namespace LintGate.ChangedLines

inductive Edit where
  | touch (file : String)
  | insert (file : String) (line : Nat)
  | extend (file : String) (lines : List Nat)
  | erase (file : String)
deriving DecidableEq, Repr

namespace Edit

def file : Edit → String
  | touch file | insert file _ | extend file _ | erase file => file

def lines : Edit → List Nat
  | touch _ | erase _ => []
  | insert _ line => [line]
  | extend _ lines => lines

def Touches (e : Edit) (file : String) : Prop := e.file = file ∧ e ≠ erase file

def Supplies (e : Edit) (file : String) (line : Nat) : Prop := e.file = file ∧ line ∈ e.lines

def result : Edit → Option LineSet → Option LineSet
  | touch _, old => some (old.getD .empty)
  | insert _ line, old => some ((old.getD .empty).insert line)
  | extend _ lines, old => some ((old.getD .empty).insertAll lines)
  | erase _, _ => none

theorem resultPresent (e : Edit) (old : Option LineSet) :
    (e.result old).isSome = true ↔ e ≠ erase e.file := by
  cases e <;> simp [result, file]

theorem resultMem (e : Edit) (old : Option LineSet) (line : Nat) :
    line ∈ ((e.result old).getD .empty).toList ↔
      line ∈ e.lines ∨ line ∈ (old.getD .empty).toList ∧ e ≠ erase e.file := by
  cases e with
  | touch _ => simp [result, lines, file]
  | insert _ added => simp [result, lines, file, LineSet.insert]
  | extend _ added =>
    simp [result, lines, file, LineSet.insertAll, or_comm]
  | erase _ => simp [result, lines, file, LineSet.empty]

end Edit

def apply (c : ChangedLines) : Edit → ChangedLines
  | .touch file => c.touch file
  | .insert file line => c.insert file line
  | .extend file lines => c.extend file lines
  | .erase file => c.erase file

def replay (c : ChangedLines) (edits : List Edit) : ChangedLines := edits.foldl apply c

def history (pairs : List (String × List Nat)) (edits : List Edit) : List Edit :=
  pairs.map (fun pair => .extend pair.1 pair.2) ++ edits

theorem linesApply (c : ChangedLines) (e : Edit) (file : String) :
    (c.apply e).lines? file =
      if file = e.file then e.result (c.lines? file) else c.lines? file := by
  have own : ∀ (name : String) (f : LineSet → LineSet), (c.update name f).lines? file =
      if file = name then some (f ((c.lines? file).getD .empty)) else c.lines? file := by
    intro name f
    rw [linesUpdate]
    split
    · rename_i same
      rw [same]
    · rfl
  cases e with
  | touch name => exact own name id
  | insert name line => exact own name (·.insert line)
  | extend name lines => exact own name (·.insertAll lines)
  | erase name => exact linesErase c name file

theorem isTouchedApply (c : ChangedLines) (e : Edit) (file : String) :
    (c.apply e).isTouched file = true ↔
      e.Touches file ∨ c.isTouched file = true ∧ e ≠ .erase file := by
  rw [isTouched, linesApply]
  split
  · rename_i same
    subst same
    rw [Edit.resultPresent, Edit.Touches]
    tauto
  · rename_i other
    have kept : e ≠ .erase file := fun same => other (same ▸ rfl)
    simp [Edit.Touches, isTouched, kept, Ne.symm other]

theorem containsApply (c : ChangedLines) (e : Edit) (file : String) (line : Nat) :
    (c.apply e).contains file line = true ↔
      e.Supplies file line ∨ c.contains file line = true ∧ e ≠ .erase file := by
  rw [containsIff, LineSet.containsIff, linesApply, containsIff, LineSet.containsIff]
  split
  · rename_i same
    subst same
    rw [Edit.resultMem, Edit.Supplies]
    tauto
  · rename_i other
    have kept : e ≠ .erase file := fun same => other (same ▸ rfl)
    simp [Edit.Supplies, kept, Ne.symm other]

/- Both results see the lines that were there before, since neither edit changes the other file. -/
theorem applyComm (c : ChangedLines) {d e : Edit} (distinct : d.file ≠ e.file) :
    (c.apply d).apply e = (c.apply e).apply d := by
  refine unique (fun file => ?_)
  rw [linesApply, linesApply, linesApply, linesApply]
  by_cases first : file = d.file
  · have second : file ≠ e.file := fun same => distinct (first ▸ same)
    rw [if_neg second, if_neg second]
  · rw [if_neg first, if_neg first]

theorem linesTouch {c : ChangedLines} {file : String} {lines : LineSet}
    (present : c.lines? file = some lines) (touched : String) :
    (c.touch touched).lines? file = some lines := by
  rw [touch, linesUpdate]
  split
  · rename_i same
    rw [← same, present]
    rfl
  · exact present

theorem ofPairsReplay (pairs : List (String × List Nat)) (edits : List Edit) :
    (ofPairs pairs).replay edits = empty.replay (history pairs edits) := by
  rw [replay, replay, history, List.foldl_append, List.foldl_map]
  rfl

theorem isTouchedReplay (edits : List Edit) (file : String) :
    (empty.replay edits).isTouched file = true ↔
      History.Since (· = .erase file) (·.Touches file) edits :=
  History.sinceFold (·.isTouched file = true) Bool.false_ne_true
    (fun c e => isTouchedApply c e file) edits

theorem containsReplay (edits : List Edit) (file : String) (line : Nat) :
    (empty.replay edits).contains file line = true ↔
      History.Since (· = .erase file) (·.Supplies file line) edits :=
  History.sinceFold (·.contains file line = true) Bool.false_ne_true
    (fun c e => containsApply c e file line) edits

theorem uniqueAnswers {c d : ChangedLines}
    (touched : ∀ file, c.isTouched file = true ↔ d.isTouched file = true)
    (contains : ∀ file line, c.contains file line = true ↔ d.contains file line = true) :
    c = d := by
  refine unique (fun file => ?_)
  have present := touched file
  have same := contains file
  simp only [isTouched] at present
  simp only [containsIff, LineSet.containsIff] at same
  cases left : c.lines? file with
  | none => cases right : d.lines? file <;> simp_all
  | some lines =>
    cases right : d.lines? file with
    | none => simp_all
    | some others =>
      simp only [left, right, Option.getD_some] at same
      rw [LineSet.unique same]

/- Pairs take nothing out, so of each pair only matters that it is there. -/
theorem sincePairs (pairs : List (String × List Nat)) (file : String) (counts : Edit → Prop) :
    History.Since (· = .erase file) counts (history pairs []) ↔
      ∃ pair ∈ pairs, counts (.extend pair.1 pair.2) := by
  have kept : ∀ e ∈ history pairs [], e ≠ .erase file := by
    intro e inside
    simp only [history, List.append_nil, List.mem_map] at inside
    obtain ⟨pair, -, rfl⟩ := inside
    exact Edit.noConfusion
  rw [History.sinceMem kept]
  simp [history]

theorem ofPairsPerm {pairs others : List (String × List Nat)} (perm : pairs.Perm others) :
    ofPairs pairs = ofPairs others := by
  have start : ∀ list, ofPairs list = empty.replay (history list []) :=
    fun list => ofPairsReplay list []
  rw [start, start]
  refine uniqueAnswers (fun file => ?_) (fun file line => ?_)
  · rw [isTouchedReplay, isTouchedReplay, sincePairs, sincePairs]
    simp only [perm.mem_iff]
  · rw [containsReplay, containsReplay, sincePairs, sincePairs]
    simp only [perm.mem_iff]

structure Follows (edits : List Edit) (c : ChangedLines) : Prop where
  touched : ∀ file, c.isTouched file = true ↔
    History.Since (· = .erase file) (·.Touches file) edits
  contains : ∀ file line, c.contains file line = true ↔
    History.Since (· = .erase file) (·.Supplies file line) edits
  present : ∀ file, (∃ lines, c.lines? file = some lines) ↔ c.isTouched file = true
  lines : ∀ file lines, c.lines? file = some lines → lines.toList.Pairwise (· < ·) ∧
    ∀ line, line ∈ lines.toList ↔ History.Since (· = .erase file) (·.Supplies file line) edits
  files : c.files.Pairwise (fun a b => Text.utf8 a < Text.utf8 b) ∧
    ∀ file, file ∈ c.files ↔ c.isTouched file = true
  size : c.size = c.files.length

theorem replayFollows (edits : List Edit) : Follows edits (empty.replay edits) where
  touched := isTouchedReplay edits
  contains := containsReplay edits
  present file := Option.isSome_iff_exists.symm
  lines file lines present := by
    refine ⟨lines.ascending, fun line => ?_⟩
    rw [← containsReplay, containsIff, LineSet.containsIff, present]
    rfl
  files := by
    refine ⟨List.pairwise_map.mpr ?_, fun file => filesTouched⟩
    exact (empty.replay edits).ascending.imp (Text.utf8BelowIff _ _).mpr
  size := (List.length_map _).symm

theorem determinedByHistory (pairs : List (String × List Nat)) (edits : List Edit) :
    Follows (history pairs edits) ((ofPairs pairs).replay edits) ∧
      (∀ (c : ChangedLines) (touched file : String) (lines : LineSet),
        c.lines? file = some lines → (c.touch touched).lines? file = some lines) ∧
      (∀ (c : ChangedLines) (d e : Edit), d.file ≠ e.file →
        (c.apply d).apply e = (c.apply e).apply d) ∧
      ∀ others, pairs.Perm others → ofPairs pairs = ofPairs others := by
  refine ⟨?_, fun c touched file lines present => linesTouch present touched,
    fun c d e distinct => applyComm c distinct, fun others perm => ofPairsPerm perm⟩
  rw [ofPairsReplay]
  exact replayFollows (history pairs edits)

def reworked : ChangedLines :=
  (ofPairs [("b.py", [3, 1]), ("a.py", [2])]).replay
    [.erase "b.py", .touch "b.py", .insert "a.py" 1]

theorem erasedLinesForgotten :
    reworked.isTouched "b.py" = true ∧ reworked.contains "b.py" 3 = false ∧
      (∃ lines, reworked.lines? "a.py" = some lines ∧ lines.toList = [1, 2] ∧
        (reworked.touch "a.py").lines? "a.py" = some lines) ∧
      (reworked.apply (.erase "a.py")).apply (.insert "b.py" 7) =
        (reworked.apply (.insert "b.py" 7)).apply (.erase "a.py") ∧
      ofPairs [("b.py", [3, 1]), ("a.py", [2])] = ofPairs [("a.py", [2]), ("b.py", [3, 1])] := by
  obtain ⟨follows, keeps, commute, perm⟩ :=
    determinedByHistory [("b.py", [3, 1]), ("a.py", [2])]
      [.erase "b.py", .touch "b.py", .insert "a.py" 1]
  have touched : reworked.isTouched "b.py" = true :=
    (follows.touched "b.py").mpr ⟨[.extend "b.py" [3, 1], .extend "a.py" [2], .erase "b.py"],
      .touch "b.py", [.insert "a.py" 1], rfl, ⟨rfl, by decide⟩, by decide⟩
  have both : ∃ lines, reworked.lines? "a.py" = some lines ∧ lines.toList = [1, 2] :=
    ⟨_, rfl, by decide +kernel⟩
  obtain ⟨lines, present, listed⟩ := both
  refine ⟨touched, by decide +kernel, ⟨lines, present, listed, ?_⟩,
    commute reworked (.erase "a.py") (.insert "b.py" 7) (by decide), perm _ (.swap _ _ _)⟩
  exact keeps reworked "a.py" "a.py" lines present

end LintGate.ChangedLines
