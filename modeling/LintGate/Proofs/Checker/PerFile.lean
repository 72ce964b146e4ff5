import LintGate.Checker.Cpplint
import LintGate.Checker.Flake8
import LintGate.Checker.Yamllint
import LintGate.Proofs.Checker.Batch
import LintGate.Proofs.Text.Printed

/-! Tools that report on each file by itself. Their outputs are read line by line, and no line
runs on from the report of one file into that of the next. So it does not show how the files were
cut into groups: the findings are those of the files, one after the other, as one command over all
files would give them. -/
namespace LintGate
open Batch

def lineRecords (record? : List Char → Option Finding) (output : String) : List Finding :=
  (Text.lines output.toList).filterMap record?

theorem lineRecordsJoin (record? : List Char → Option Finding) {report : String → String}
    {files : List String}
    (ended : ∀ file ∈ files, report file = "" ∨ (report file).toList.getLast? = some '\n') :
    lineRecords record? (String.join (files.map report)) =
      files.flatMap (fun file => lineRecords record? (report file)) := by
  induction files with
  | nil => rfl
  | cons file files ih =>
    have later := ih (fun other member => ended other (List.mem_cons_of_mem _ member))
    have closed : (report file).toList = [] ∨ (report file).toList.getLast? = some '\n' :=
      (ended file List.mem_cons_self).imp_left (fun empty => by rw [empty]; rfl)
    have whole : (String.join ((file :: files).map report)).toList =
        (report file).toList ++ (String.join (files.map report)).toList := by
      simp [String.toList_join]
    rw [lineRecords, whole, Text.linesAppend closed, List.filterMap_append, List.flatMap_cons,
      ← later]
    rfl

namespace ExternalTool

def base (tool : ExternalTool) : Command := tool.program :: tool.arguments

def version (tool : ExternalTool) : Command := [tool.program, "--version"]

theorem runFilled {tool : ExternalTool} {files : List String} (filled : files ≠ [])
    (runner : Runner) :
    tool.run runner files =
      ⟨tool.version :: (runGroups runner tool.accepts tool.read tool.base (batches files)).calls,
        (runGroups runner tool.accepts tool.read tool.base (batches files)).result⟩ := by
  have nonempty : files.isEmpty = false := by simpa using filled
  simp [run, nonempty, probe, runBatched, version, base]

def unbatched (tool : ExternalTool) (runner : Runner) (files : List String) :
    Except Failure (List Finding) :=
  (runner.run tool.accepts (tool.base ++ files)).map tool.read

/- Each file has a report of whole lines, and the answer about some of the files in a row is
accepted and consists of their reports. -/
structure PerFile (tool : ExternalTool) (stream : Output → String) (runner : Runner)
    (report : String → String) (files : List String) : Prop where
  ended : ∀ file ∈ files, report file = "" ∨ (report file).toList.getLast? = some '\n'
  answers : ∀ batch, batch ≠ [] → batch <:+: files →
    ∃ out, runner (tool.base ++ batch) = .ok out ∧ tool.accepts out = true ∧
      stream out = String.join (batch.map report)

section

variable {tool : ExternalTool} {stream : Output → String} {record? : List Char → Option Finding}
  {runner : Runner} {report : String → String} {files : List String}
  (reads : ∀ out, tool.read out = lineRecords record? (stream out))
  (perFile : PerFile tool stream runner report files)
include reads perFile

theorem perFileAnswer {batch : List String} (filled : batch ≠ []) (inside : batch <:+: files) :
    ∃ out, runner.run tool.accepts (tool.base ++ batch) = .ok out ∧
      tool.read out = batch.flatMap (fun file => lineRecords record? (report file)) := by
  obtain ⟨out, answer, accepted, printed⟩ := perFile.answers batch filled inside
  refine ⟨out, by simp [Runner.run, answer, accepted], ?_⟩
  rw [reads, printed]
  exact lineRecordsJoin record? (fun file member => perFile.ended file (inside.subset member))

theorem perFileUnbatched (filled : files ≠ []) :
    tool.unbatched runner files =
      .ok (files.flatMap (fun file => lineRecords record? (report file))) := by
  obtain ⟨out, answer, read⟩ := perFileAnswer reads perFile filled List.infix_rfl
  rw [unbatched, answer, ← read]
  rfl

theorem perFileBatched (filled : files ≠ []) :
    (tool.run runner files).result =
      .ok (files.flatMap (fun file => lineRecords record? (report file))) := by
  have cut := batchesCut files
  have each : ∀ group ∈ batches files, ∃ out,
      runner.run tool.accepts (tool.base ++ group) = .ok out ∧
        tool.read out = group.flatMap (fun file => lineRecords record? (report file)) := by
    intro group member
    have inside := List.infix_of_mem_flatten member
    rw [cut.whole] at inside
    exact perFileAnswer reads perFile (List.length_pos_iff.mp (cut.sized group member).1) inside
  obtain ⟨outs, accepted, read⟩ := acceptedEach each
  rw [runFilled filled, runGroupsAccepted accepted, read, ← List.flatMap_assoc,
    List.flatMap_id', cut.whole]

theorem perFileInvisible (filled : files ≠ []) :
    (tool.run runner files).result =
        .ok (files.flatMap (fun file => lineRecords record? (report file))) ∧
      tool.unbatched runner files = (tool.run runner files).result := by
  have batched := perFileBatched reads perFile filled
  exact ⟨batched, (perFileUnbatched reads perFile filled).trans batched.symm⟩

end

end ExternalTool

theorem Flake8.readsLines (o : Flake8.Options) (out : Output) :
    (Flake8.tool o).read out = lineRecords colonRecord? out.stdout := rfl

theorem Yamllint.readsLines (o : Yamllint.Options) (out : Output) :
    (Yamllint.tool o).read out = lineRecords colonRecord? out.stdout := rfl

theorem Cpplint.readsLines (o : Cpplint.Options) (out : Output) :
    (Cpplint.tool o).read out = lineRecords Cpplint.record? out.stderr := rfl

namespace ExternalTool

theorem batchingInvisible (ctx : Context) (selection : Selection) (filled : selection.toList ≠ [])
    (report : String → String) :
    (∀ o, PerFile (Flake8.tool o) Output.stdout ctx.runner report selection.toList →
      (Flake8.job o ctx selection).result =
          .ok (selection.toList.flatMap (fun file => colonRecords (report file))) ∧
        (Flake8.tool o).unbatched ctx.runner selection.toList =
          (Flake8.job o ctx selection).result) ∧
    (∀ o, PerFile (Yamllint.tool o) Output.stdout ctx.runner report selection.toList →
      (Yamllint.job o ctx selection).result =
          .ok (selection.toList.flatMap (fun file => colonRecords (report file))) ∧
        (Yamllint.tool o).unbatched ctx.runner selection.toList =
          (Yamllint.job o ctx selection).result) ∧
    (∀ o, PerFile (Cpplint.tool o) Output.stderr ctx.runner report selection.toList →
      (Cpplint.job o ctx selection).result =
          .ok (selection.toList.flatMap (fun file => Cpplint.records (report file))) ∧
        (Cpplint.tool o).unbatched ctx.runner selection.toList =
          (Cpplint.job o ctx selection).result) := by
  refine ⟨fun o perFile => ?_, fun o perFile => ?_, fun o perFile => ?_⟩
  · exact perFileInvisible (Flake8.readsLines o) perFile filled
  · exact perFileInvisible (Yamllint.readsLines o) perFile filled
  · exact perFileInvisible (Cpplint.readsLines o) perFile filled

def twoLines : String → String
  | "a" => "a:1:2: x\na:3:  y  [z] [5]\n"
  | _ => ""

def printer : Runner := fun command =>
  let printed := String.join (command.map twoLines)
  .ok ⟨if command.head? = some "./cpplint.py" then "" else printed, printed, some 1⟩

theorem printerJoin {words : Command} (quiet : ∀ word ∈ words, twoLines word = "")
    (batch : List String) :
    String.join ((words ++ batch).map twoLines) = String.join (batch.map twoLines) := by
  have silent : words.flatMap (fun word => (twoLines word).toList) = [] :=
    List.flatMap_eq_nil_iff.mpr (fun word member => by rw [quiet word member]; rfl)
  apply String.toList_injective
  simp [String.toList_join, List.flatMap_map, silent]

theorem twoBatchesInvisible :
    PerFile (Flake8.tool .default) Output.stdout printer twoLines (List.replicate 201 "a") ∧
      PerFile (Yamllint.tool .default) Output.stdout printer twoLines (List.replicate 201 "a") ∧
      PerFile (Cpplint.tool .default) Output.stderr printer twoLines (List.replicate 201 "a") ∧
      (Flake8.job .default ⟨".", .empty, printer⟩ (.whole (List.replicate 201 "a"))).result =
        .ok (List.replicate 201 ⟨"a", some 1, some 2, "x"⟩) ∧
      (Yamllint.job .default ⟨".", .empty, printer⟩ (.whole (List.replicate 201 "a"))).result =
        .ok (List.replicate 201 ⟨"a", some 1, some 2, "x"⟩) ∧
      (Cpplint.job .default ⟨".", .empty, printer⟩ (.whole (List.replicate 201 "a"))).result =
        .ok (List.replicate 201 ⟨"a", some 3, none, "[5] [z] y"⟩) := by
  have ended : ∀ file ∈ List.replicate 201 "a",
      twoLines file = "" ∨ (twoLines file).toList.getLast? = some '\n' := by
    intro file member
    rw [List.eq_of_mem_replicate member]
    exact .inr (by decide)
  have flake8 : PerFile (Flake8.tool .default) Output.stdout printer twoLines
      (List.replicate 201 "a") :=
    ⟨ended, fun batch _ _ => ⟨_, rfl, rfl, printerJoin (by decide) batch⟩⟩
  have yamllint : PerFile (Yamllint.tool .default) Output.stdout printer twoLines
      (List.replicate 201 "a") :=
    ⟨ended, fun batch _ _ => ⟨_, rfl, rfl, printerJoin (by decide) batch⟩⟩
  have cpplint : PerFile (Cpplint.tool .default) Output.stderr printer twoLines
      (List.replicate 201 "a") :=
    ⟨ended, fun batch _ _ => ⟨_, rfl, rfl, printerJoin (by decide) batch⟩⟩
  obtain ⟨ofFlake8, ofYamllint, ofCpplint⟩ := batchingInvisible ⟨".", .empty, printer⟩
    (.whole (List.replicate 201 "a")) (List.cons_ne_nil _ _) twoLines
  refine ⟨flake8, yamllint, cpplint, (ofFlake8 _ flake8).1.trans ?_,
    (ofYamllint _ yamllint).1.trans ?_, (ofCpplint _ cpplint).1.trans ?_⟩
  · decide +kernel
  · decide +kernel
  · decide +kernel

end ExternalTool

end LintGate
