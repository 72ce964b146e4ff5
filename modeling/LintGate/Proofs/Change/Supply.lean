import LintGate.Program.Basic
import LintGate.Proofs.Change.Union
import LintGate.Proofs.Except

/-! A change taken from the version control system, from a file or from standard input. Only the
text of the diff matters: each source gives the change that the diff describes, less the files
that are missing below the root, and the candidates of a run are files that exist. -/
namespace LintGate

namespace ChangedLines

theorem linesEraseAll (c : ChangedLines) (gone : List String) (file : String) :
    (gone.foldl erase c).lines? file = if file ∈ gone then none else c.lines? file := by
  induction gone generalizing c with
  | nil => simp
  | cons first gone ih =>
    rw [List.foldl_cons, ih, linesErase]
    by_cases same : file = first <;> simp [same]

/- The files to leave out are collected first and taken out one by one. Each step takes out one
file and changes no other, so the order does not matter and a single pass does the same. -/
theorem eraseEach (c : ChangedLines) (keep : String → Bool) :
    (c.files.filter (fun file => !keep file)).foldl erase c = c.retain keep := by
  refine unique (fun file => ?_)
  rw [linesEraseAll, linesRetain]
  cases kept : keep file with
  | true => simp [kept]
  | false =>
    simp only [List.mem_filter, filesTouched, isTouched, kept]
    cases c.lines? file <;> simp

end ChangedLines

theorem decodeEncoded (text : String) : decodeText text.toUTF8 = .ok text := by
  have valid : String.fromUTF8? text.toUTF8 = some text := dif_pos text.isValidUTF8
  rw [decodeText, valid]

inductive Holds (tree : FileTree) (input : ByteArray) (text : String) : String → Prop where
  | input (bytes : input = text.toUTF8) : Holds tree input text "-"
  | file {source : String} (named : source ≠ "-") (bytes : tree.read source = .ok text.toUTF8) :
      Holds tree input text source

structure Remains (tree : FileTree) (root : String) (whole left : ChangedLines) : Prop where
  touched : ∀ file, left.isTouched file = true ↔
    whole.isTouched file = true ∧ tree.isFile (Path.join root file) = true
  lines : ∀ file, left.isTouched file = true → left.lines? file = whole.lines? file
  erased : left = (whole.files.filter (fun file => !existsBelow tree root file)).foldl
    ChangedLines.erase whole

theorem retainRemains (tree : FileTree) (root : String) (whole : ChangedLines) :
    Remains tree root whole (whole.retain (existsBelow tree root)) := by
  refine ⟨whole.isTouchedRetain _, fun file touched => ?_, (whole.eraseEach _).symm⟩
  rw [whole.linesRetain, if_pos ((whole.isTouchedRetain _ file).mp touched).2]

theorem diffTextHeld {tree : FileTree} {input : ByteArray} {text source : String}
    (holds : Holds tree input text source) : diffText tree input source = .ok text := by
  cases holds with
  | input bytes => rw [diffText, if_pos rfl, bytes, decodeEncoded]
  | file named bytes =>
    have read : tree.readText source = .ok text := by
      rw [FileTree.readText, bytes]
      exact decodeEncoded text
    rw [diffText, if_neg named, read]

theorem changedSinceAnswer {runner : Runner} {tree : FileTree} {root refspec : String}
    {out : Output} (answer : runner (diffCommand refspec) = .ok out) (success : out.code = some 0) :
    (changedSince runner tree root refspec).result =
      .ok ((ChangedLines.ofDiff out.stdout).retain (existsBelow tree root)) := by
  have accepted : Acceptance.exitZero out = true := by rw [Acceptance.exitZero, success]; rfl
  have ran : runner.run .exitZero (diffCommand refspec) = .ok out := by
    rw [Runner.run, answer]
    exact if_pos accepted
  rw [changedSince, ran]
  rfl

theorem changesRetained {world : World} {runner : Runner} {root : String} {options : RunOptions}
    {diff : ChangedLines}
    (changed : (Program.changes world runner root options).result = .ok (some diff)) :
    ∃ whole : ChangedLines, diff = whole.retain (existsBelow world.tree root) := by
  unfold Program.changes at changed
  split at changed
  · obtain ⟨left, compared, same⟩ := mapOk.mp changed
    obtain ⟨out, _, retained⟩ := mapOk.mp compared
    exact ⟨.ofDiff out.stdout, (Option.some.inj same).symm.trans retained.symm⟩
  · obtain ⟨left, read, same⟩ := mapOk.mp changed
    obtain ⟨text, _, retained⟩ := mapOk.mp read
    exact ⟨.ofDiff text, (Option.some.inj same).symm.trans retained.symm⟩
  · cases changed

theorem suppliersAgree (world : World) (root text : String) :
    (∀ (runner : Runner) (refspec source : String) (out : Output),
      runner (diffCommand refspec) = .ok out → out.code = some 0 → out.stdout = text →
      Holds world.tree world.input text source →
        ∃ left, (changedSince runner world.tree root refspec).result = .ok left ∧
          changedInDiff world.tree world.input root source = .ok left ∧
          Remains world.tree root (.ofDiff text) left) ∧
    ∀ (runner : Runner) (options : RunOptions) (diff : ChangedLines),
      (Program.changes world runner root options).result = .ok (some diff) →
        ∃ names, (Program.candidates world runner root (some diff)).result = .ok names ∧
          ∀ name ∈ names,
            diff.isTouched name = true ∧ world.tree.isFile (Path.join root name) = true := by
  constructor
  · intro runner refspec source out answer success answered holds
    subst answered
    refine ⟨_, changedSinceAnswer answer success, ?_, retainRemains _ _ _⟩
    rw [changedInDiff, diffTextHeld holds]
    rfl
  · intro runner options diff changed
    obtain ⟨whole, rfl⟩ := changesRetained changed
    refine ⟨_, rfl, fun name candidate => ?_⟩
    have touched := ChangedLines.filesTouched.mp candidate
    exact ⟨touched, ((retainRemains world.tree root whole).touched name).mp touched |>.2⟩

def movedDiff : String :=
  "--- a/old.py\n+++ b/old.py\n@@ -1 +0,0 @@\n-x\n--- a/new.py\n+++ b/new.py\n@@ -2,0 +3 @@\n+x\n"

def movedWorld : World :=
  ⟨⟨[(["change.diff"], .file movedDiff.toUTF8 false), (["new.py"], .file .empty false)], []⟩,
    .empty, false, fun _ _ _ => .ok ⟨movedDiff, "", some 0⟩⟩

theorem missingFileLeftOut :
    ∃ left names,
      (changedSince (movedWorld.launch "." none) movedWorld.tree "." "HEAD").result = .ok left ∧
      changedInDiff movedWorld.tree movedWorld.input "." "change.diff" = .ok left ∧
      left.isTouched "new.py" = true ∧ left.isTouched "old.py" = false ∧
      (Program.candidates movedWorld (movedWorld.launch "." none) "." (some left)).result =
        .ok names ∧
      ∀ name ∈ names, movedWorld.tree.isFile (Path.join "." name) = true := by
  obtain ⟨agree, exist⟩ := suppliersAgree movedWorld "." movedDiff
  have holds : Holds movedWorld.tree movedWorld.input movedDiff "change.diff" :=
    .file (by decide) rfl
  obtain ⟨left, compared, read, remains⟩ :=
    agree (movedWorld.launch "." none) "HEAD" "change.diff" _ rfl rfl rfl holds
  let options : RunOptions := ⟨none, none, some "HEAD", none, none, none, none, false⟩
  have changed : (Program.changes movedWorld (movedWorld.launch "." none) "." options).result =
      .ok (some left) := mapOk.mpr ⟨left, compared, rfl⟩
  obtain ⟨names, listed, present⟩ := exist (movedWorld.launch "." none) options left changed
  have kept : left.isTouched "new.py" = true :=
    (remains.touched "new.py").mpr (by decide +kernel)
  have missing : movedWorld.tree.isFile (Path.join "." "old.py") ≠ true := by decide +kernel
  have gone : left.isTouched "old.py" = false :=
    Bool.eq_false_iff.mpr (fun touched => missing ((remains.touched "old.py").mp touched).2)
  have there : ∀ name ∈ names, movedWorld.tree.isFile (Path.join "." name) = true :=
    fun name inside => (present name inside).2
  exact ⟨left, names, compared, read, kept, gone, listed, there⟩

end LintGate
