import LintGate.Checker.Whitespace
import LintGate.Proofs.Checker.Reading

/-! What the white-space check returns. It fails exactly when a file cannot be read; otherwise
its findings are those of the files, one after the other. Each finding stands on a line of its
own file, and looking at some lines only gives the findings that stand on them. -/
namespace LintGate.Whitespace

def inFile (ctx : Context) (o : Options) (wanted : Option LineSet) (file : String) : List Finding :=
  foundIn ctx (fun file source => checkLines o file wanted 1 (Text.lines source.toList)) file

theorem checkFilesReadable {ctx : Context} {files : List String}
    (readable : ∀ file ∈ files, Readable ctx file) (o : Options) (selection : Selection) :
    checkFiles ctx o selection files =
      .ok (files.flatMap (fun file => inFile ctx o (selection.linesOf? file) file)) :=
  checkEachReadable _ readable

theorem trailingPlace {file : String} {number : Nat} {line : List Char} {m : Finding}
    (member : m ∈ trailing file number line) : m.file = file ∧ m.line = some (position number) := by
  simp only [trailing] at member
  split at member
  · exact absurd member List.not_mem_nil
  · cases List.mem_singleton.mp member
    exact ⟨rfl, rfl⟩

theorem tabPlace {file : String} {number : Nat} {line : List Char} {m : Finding}
    (member : m ∈ tab file number line) : m.file = file ∧ m.line = some (position number) := by
  unfold tab at member
  split at member
  · exact absurd member List.not_mem_nil
  · cases List.mem_singleton.mp member
    exact ⟨rfl, rfl⟩

theorem checkLinePlace {o : Options} {file : String} {number : Nat} {line : List Char} {m : Finding}
    (member : m ∈ checkLine o file number line) :
    m.file = file ∧ m.line = some (position number) := by
  rcases List.mem_append.mp member with found | found
  · exact trailingPlace found
  · split at found
    · exact tabPlace found
    · exact absurd found List.not_mem_nil

/- All findings of a line stand on it, so a line is kept whole or not at all. -/
theorem checkLinesRestricted (o : Options) (file : String) (wanted : LineSet) (number : Nat)
    (lines : List (List Char)) :
    checkLines o file (some wanted) number lines =
      (checkLines o file none number lines).filter (fun m => m.line.any wanted.contains) := by
  induction lines generalizing number with
  | nil => rfl
  | cons line rest ih =>
    have onLine : ∀ m ∈ checkLine o file number line,
        m.line.any wanted.contains = wanted.contains (position number) := by
      intro m member
      simp [(checkLinePlace member).2]
    simp only [checkLines, Option.all_some, Option.all_none, if_true, List.filter_append, ih]
    by_cases inside : wanted.contains (position number) = true
    · have all : (checkLine o file number line).filter (fun m => m.line.any wanted.contains) =
          checkLine o file number line := by
        refine List.filter_eq_self.mpr (fun m member => ?_)
        rw [onLine m member, inside]
      rw [if_pos inside, all]
    · have none : (checkLine o file number line).filter (fun m => m.line.any wanted.contains) =
          [] := by
        refine List.filter_eq_nil_iff.mpr (fun m member => ?_)
        rw [onLine m member]
        exact inside
      rw [if_neg inside, none, List.nil_append]

theorem checkLinesPlace {o : Options} {file : String} {number : Nat} {lines : List (List Char)}
    {m : Finding} (member : m ∈ checkLines o file none number lines) :
    m.file = file ∧ m.line.isSome = true := by
  induction lines generalizing number with
  | nil => exact absurd member List.not_mem_nil
  | cons line rest ih =>
    simp only [checkLines, Option.all_none, if_true] at member
    rcases List.mem_append.mp member with found | found
    · obtain ⟨inFile, onLine⟩ := checkLinePlace found
      exact ⟨inFile, by simp [onLine]⟩
    · exact ih found

theorem inFileRestricted (ctx : Context) (o : Options) (wanted : LineSet) (file : String) :
    inFile ctx o (some wanted) file =
      (inFile ctx o none file).filter (fun m => m.line.any wanted.contains) := by
  cases text : ctx.tree.readText (Path.join ctx.root file) with
  | error e => simp [inFile, foundInNothing text]
  | ok source =>
    rw [inFile, inFile, foundInText text, foundInText text]
    exact checkLinesRestricted o file wanted 1 _

theorem inFileSubset {ctx : Context} {o : Options} {wanted : Option LineSet} {file : String}
    {m : Finding} (member : m ∈ inFile ctx o wanted file) : m ∈ inFile ctx o none file := by
  cases wanted with
  | none => exact member
  | some lines =>
    rw [inFileRestricted] at member
    exact (List.mem_filter.mp member).1

theorem inFilePlace {ctx : Context} {o : Options} {wanted : Option LineSet} {file : String}
    {m : Finding} (member : m ∈ inFile ctx o wanted file) :
    m.file = file ∧ m.line.isSome = true := by
  obtain ⟨source, -, found⟩ := foundInMem (inFileSubset member)
  exact checkLinesPlace found

end LintGate.Whitespace
