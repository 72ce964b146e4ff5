import LintGate.Proofs.Checker.PerFile

/-! The question for a tool's version. It is the first command of a run over files and is put once.
What is answered to it, and whether anything is, shows neither in the findings nor in the commands
that follow. -/
namespace LintGate
open Batch

theorem Batch.runGroupsAgree {left right : Runner} (accepts : Acceptance)
    (read : Output → List Finding) {base : Command} {groups : List (List String)}
    (agree : ∀ group ∈ groups, left (base ++ group) = right (base ++ group)) :
    runGroups left accepts read base groups = runGroups right accepts read base groups := by
  induction groups with
  | nil => rfl
  | cons group groups ih =>
    have first : left.run accepts (base ++ group) = right.run accepts (base ++ group) := by
      simp only [Runner.run, agree group List.mem_cons_self]
    have later := ih (fun other member => agree other (List.mem_cons_of_mem group member))
    simp only [runGroups, first, later]

namespace ExternalTool

def AgreeElsewhere (tool : ExternalTool) (left right : Runner) : Prop :=
  ∀ command, command ≠ tool.version → left command = right command

inductive Ended (tool : ExternalTool) (runner : Runner) (groups : List (List String)) :
    List Command → Prop where
  | accepted {outs : List Output} (all : Accepted runner tool.accepts tool.base groups outs) :
      Ended tool runner groups (groups.map (tool.base ++ ·))
  | rejected {before after : List (List String)} {group : List String} {outs : List Output}
      {failure : Failure} (cut : groups = before ++ group :: after)
      (accepted : Accepted runner tool.accepts tool.base before outs)
      (refused : runner.run tool.accepts (tool.base ++ group) = .error failure) :
      Ended tool runner groups ((before ++ [group]).map (tool.base ++ ·))

inductive Issued (tool : ExternalTool) (runner : Runner) (files : List String) :
    List Command → Prop where
  | nothing (empty : files = []) : Issued tool runner files []
  | probed {groups : List (List String)} {commands : List Command} (filled : files ≠ [])
      (cut : Cut 200 files groups) (ended : Ended tool runner groups commands)
      (once : tool.version ∉ commands) : Issued tool runner files (tool.version :: commands)

section

variable {tool : ExternalTool} {files : List String}

theorem groupsEnded (tool : ExternalTool) (runner : Runner) (groups : List (List String)) :
    Ended tool runner groups
      (runGroups runner tool.accepts tool.read tool.base groups).calls := by
  induction groups with
  | nil => exact .accepted .nil
  | cons group groups ih =>
    cases answer : runner.run tool.accepts (tool.base ++ group) with
    | error failure =>
      have cut : group :: groups = [] ++ group :: groups := rfl
      simp only [runGroups, answer]
      exact .rejected cut .nil answer
    | ok out =>
      simp only [runGroups, answer]
      generalize (runGroups runner tool.accepts tool.read tool.base groups).calls = commands at ih ⊢
      cases ih with
      | accepted all => exact .accepted (.cons answer all)
      | rejected cut accepted refused =>
        exact .rejected (congrArg (group :: ·) cut) (.cons answer accepted) refused

theorem endedGroups {runner : Runner} {groups : List (List String)} {commands : List Command}
    (ended : Ended tool runner groups commands) {command : Command} (member : command ∈ commands) :
    ∃ group ∈ groups, command = tool.base ++ group := by
  cases ended with
  | accepted all =>
    obtain ⟨group, inside, same⟩ := List.mem_map.mp member
    exact ⟨group, inside, same.symm⟩
  | rejected cut accepted refused =>
    obtain ⟨group, inside, same⟩ := List.mem_map.mp member
    refine ⟨group, ?_, same.symm⟩
    rw [cut, List.mem_append, List.mem_cons]
    exact (List.mem_append.mp inside).imp_right (fun last => .inl (List.mem_singleton.mp last))

/- A command over files is no question for the version when the tool's own arguments do not start
with that word and no file is named so. -/
theorem baseNotVersion (plain : tool.arguments.head? ≠ some "--version") {group : List String}
    (unnamed : "--version" ∉ group) : tool.base ++ group ≠ tool.version := by
  intro same
  have behind : tool.arguments ++ group = ["--version"] := by
    simpa [base, version] using same
  cases arguments : tool.arguments with
  | nil =>
    rw [arguments, List.nil_append] at behind
    exact unnamed (by simp [behind])
  | cons first rest =>
    rw [arguments, List.cons_append] at behind
    have head : first = "--version" := (List.cons.inj behind).1
    exact plain (by simp [arguments, head])

theorem batchNotVersion (plain : tool.arguments.head? ≠ some "--version")
    (unnamed : "--version" ∉ files) {group : List String} (member : group ∈ batches files) :
    tool.base ++ group ≠ tool.version := by
  refine baseNotVersion plain (fun inside => unnamed ?_)
  rw [← (batchesCut files).whole]
  exact List.mem_flatten.mpr ⟨group, member, inside⟩

theorem runAgree (plain : tool.arguments.head? ≠ some "--version")
    (unnamed : "--version" ∉ files) {left right : Runner} (agree : AgreeElsewhere tool left right) :
    tool.run left files = tool.run right files := by
  by_cases empty : files = []
  · simp [run, empty]
  · have same : runGroups left tool.accepts tool.read tool.base (batches files) =
        runGroups right tool.accepts tool.read tool.base (batches files) :=
      runGroupsAgree _ _ (fun group member => agree _ (batchNotVersion plain unnamed member))
    rw [runFilled empty, runFilled empty, same]

theorem runIssued (plain : tool.arguments.head? ≠ some "--version")
    (unnamed : "--version" ∉ files) (runner : Runner) :
    Issued tool runner files (tool.run runner files).calls := by
  by_cases empty : files = []
  · simpa [run, empty] using Issued.nothing empty
  · have ended := groupsEnded tool runner (batches files)
    have once : tool.version ∉
        (runGroups runner tool.accepts tool.read tool.base (batches files)).calls := by
      intro member
      obtain ⟨group, inside, same⟩ := endedGroups ended member
      exact batchNotVersion plain unnamed inside same.symm
    rw [runFilled empty]
    exact .probed empty (batchesCut files) ended once

end

end ExternalTool

theorem Flake8.plainArguments (o : Flake8.Options) :
    (Flake8.tool o).arguments.head? ≠ some "--version" := by
  obtain ⟨config⟩ := o
  cases config with
  | none => simp [Flake8.tool, Flake8.arguments]
  | some path =>
    intro same
    have word : "--config=" ++ path = "--version" := Option.some.inj same
    have letters := congrArg String.toList word
    simp at letters

theorem Yamllint.plainArguments (o : Yamllint.Options) :
    (Yamllint.tool o).arguments.head? ≠ some "--version" := by
  simp [Yamllint.tool, Yamllint.arguments]

theorem Cpplint.plainArguments (o : Cpplint.Options) :
    (Cpplint.tool o).arguments.head? ≠ some "--version" := by
  intro same
  have word : "--linelength=" ++ toString o.lineLength = "--version" := Option.some.inj same
  have letters := congrArg String.toList word
  simp at letters

namespace ExternalTool

theorem probeInvisible (ctx : Context) (other : Runner) (selection : Selection)
    (unnamed : "--version" ∉ selection.toList) :
    (∀ o, AgreeElsewhere (Flake8.tool o) ctx.runner other →
      Flake8.job o ctx selection = Flake8.job o { ctx with runner := other } selection ∧
        Issued (Flake8.tool o) ctx.runner selection.toList (Flake8.job o ctx selection).calls) ∧
    (∀ o, AgreeElsewhere (Yamllint.tool o) ctx.runner other →
      Yamllint.job o ctx selection = Yamllint.job o { ctx with runner := other } selection ∧
        Issued (Yamllint.tool o) ctx.runner selection.toList
          (Yamllint.job o ctx selection).calls) ∧
    (∀ o, AgreeElsewhere (Cpplint.tool o) ctx.runner other →
      Cpplint.job o ctx selection = Cpplint.job o { ctx with runner := other } selection ∧
        Issued (Cpplint.tool o) ctx.runner selection.toList
          (Cpplint.job o ctx selection).calls) := by
  refine ⟨fun o agree => ?_, fun o agree => ?_, fun o agree => ?_⟩
  · have plain := Flake8.plainArguments o
    exact ⟨runAgree plain unnamed agree, runIssued plain unnamed ctx.runner⟩
  · have plain := Yamllint.plainArguments o
    exact ⟨runAgree plain unnamed agree, runIssued plain unnamed ctx.runner⟩
  · have plain := Cpplint.plainArguments o
    exact ⟨runAgree plain unnamed agree, runIssued plain unnamed ctx.runner⟩

def answering (tool : ExternalTool) (answer : Except Failure Output) (runner : Runner) : Runner :=
  fun command => if command = tool.version then answer else runner command

theorem answeringAgree (tool : ExternalTool) (answer other : Except Failure Output)
    (runner : Runner) :
    AgreeElsewhere tool (tool.answering answer runner) (tool.answering other runner) := by
  intro command elsewhere
  simp only [answering, if_neg elsewhere]

def noVersion : Except Failure Output := .error (.spawn "--version" "not found")

def someVersion : Except Failure Output := .ok ⟨"FATAL", "", none⟩

theorem runPair (tool : ExternalTool) (runner : Runner) :
    (tool.run runner ["a", "b"]).result =
      (runGroups runner tool.accepts tool.read tool.base [["a", "b"]]).result := by
  have whole : batches ["a", "b"] = [["a", "b"]] := by simp [batches, maxFilesPerCommand]
  rw [runFilled (List.cons_ne_nil _ _), whole]

theorem missingVersionInvisible :
    "--version" ∉ ["a", "b"] ∧
      (∀ tool, AgreeElsewhere tool (tool.answering noVersion printer)
        (tool.answering someVersion printer)) ∧
      (Flake8.job .default ⟨".", .empty, (Flake8.tool .default).answering noVersion printer⟩
        (.whole ["a", "b"])).result = .ok [⟨"a", some 1, some 2, "x"⟩] ∧
      (Yamllint.job .default ⟨".", .empty, (Yamllint.tool .default).answering noVersion printer⟩
        (.whole ["a", "b"])).result = .ok [⟨"a", some 1, some 2, "x"⟩] ∧
      (Cpplint.job .default ⟨".", .empty, (Cpplint.tool .default).answering noVersion printer⟩
        (.whole ["a", "b"])).result = .ok [⟨"a", some 3, none, "[5] [z] y"⟩] := by
  have unnamed : "--version" ∉ ["a", "b"] := by decide
  have agree := fun tool => answeringAgree tool noVersion someVersion printer
  have invisible := fun runner other =>
    probeInvisible ⟨".", .empty, runner⟩ other (.whole ["a", "b"]) unnamed
  have flake8 := ((invisible _ _).1 .default (agree _)).1
  have yamllint := ((invisible _ _).2.1 .default (agree _)).1
  have cpplint := ((invisible _ _).2.2 .default (agree _)).1
  refine ⟨unnamed, agree, (congrArg Traced.result flake8).trans ((runPair _ _).trans ?_),
    (congrArg Traced.result yamllint).trans ((runPair _ _).trans ?_),
    (congrArg Traced.result cpplint).trans ((runPair _ _).trans ?_)⟩
  · decide +kernel
  · decide +kernel
  · decide +kernel

end ExternalTool

end LintGate
