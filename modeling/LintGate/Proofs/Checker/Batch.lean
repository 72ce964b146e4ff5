import LintGate.Checker.Batch
import LintGate.Proofs.Except

/-! Which commands are run for a long selection, and what comes of them. The files are cut into
groups in one way only. The commands are run one after the other up to the first that is not
accepted. Its failure is then the whole result; otherwise all that was read is returned. -/
namespace LintGate.Batch

structure Cut (limit : Nat) (files : List String) (groups : List (List String)) : Prop where
  whole : groups.flatten = files
  sized : ∀ group ∈ groups, 1 ≤ group.length ∧ group.length ≤ limit
  full : ∀ group ∈ groups.dropLast, group.length = limit

theorem batchesFirst {files : List String} (filled : files ≠ []) :
    batches files = files.take 200 :: batches (files.drop 200) := by
  cases files with
  | nil => exact absurd rfl filled
  | cons file rest =>
    rw [batches]
    rfl

theorem batchesFilled {files : List String} (filled : files ≠ []) : batches files ≠ [] := by
  rw [batchesFirst filled]
  exact List.cons_ne_nil _ _

theorem batchesCut (files : List String) : Cut 200 files (batches files) := by
  induction files using batches.induct with
  | case1 =>
    rw [batches]
    exact ⟨rfl, nofun, nofun⟩
  | case2 file rest ih =>
    have filled : file :: rest ≠ [] := List.cons_ne_nil file rest
    have later : Cut 200 ((file :: rest).drop 200) (batches ((file :: rest).drop 200)) := ih
    generalize file :: rest = files at filled later
    have size := List.length_pos_iff.mpr filled
    rw [batchesFirst filled]
    refine ⟨?_, fun group member => ?_, fun group member => ?_⟩
    · rw [List.flatten_cons, later.whole, List.take_append_drop]
    · rcases List.mem_cons.mp member with rfl | behind
      · rw [List.length_take]
        omega
      · exact later.sized group behind
    · by_cases short : files.drop 200 = []
      · rw [short, batches] at member
        cases member
      · rw [List.dropLast_cons_of_ne_nil (batchesFilled short)] at member
        rcases List.mem_cons.mp member with rfl | behind
        · have long : 200 < files.length := by simpa using short
          rw [List.length_take]
          omega
        · exact later.full group behind

theorem cutFirst {limit : Nat} {files first : List String} {groups : List (List String)}
    (cut : Cut limit files (first :: groups)) :
    first = files.take limit ∧ groups.flatten = files.drop limit := by
  have whole : first ++ groups.flatten = files := cut.whole
  -- Only the last group can be short, and no files are left behind it.
  cases groups with
  | nil =>
    have fits := (cut.sized first List.mem_cons_self).2
    rw [List.flatten_nil, List.append_nil] at whole
    rw [← whole, List.take_of_length_le fits, List.drop_of_length_le fits]
    exact ⟨rfl, rfl⟩
  | cons next groups =>
    have full := cut.full first (by simp)
    rw [← whole, ← full, List.take_left, List.drop_left]
    exact ⟨rfl, rfl⟩

theorem cutRest {limit : Nat} {files first : List String} {groups : List (List String)}
    (cut : Cut limit files (first :: groups)) : Cut limit groups.flatten groups := by
  refine ⟨rfl, fun group member => cut.sized group (List.mem_cons_of_mem first member), ?_⟩
  intro group member
  refine cut.full group ?_
  cases groups with
  | nil => cases member
  | cons next groups => exact List.mem_cons_of_mem first member

theorem cutBatches {files : List String} {groups : List (List String)}
    (cut : Cut 200 files groups) : groups = batches files := by
  induction groups generalizing files with
  | nil => rw [← cut.whole, List.flatten_nil, batches]
  | cons first groups ih =>
    obtain ⟨taken, left⟩ := cutFirst cut
    have filled : files ≠ [] := by
      rintro rfl
      have size := (cut.sized first List.mem_cons_self).1
      rw [taken] at size
      cases size
    rw [batchesFirst filled, ← taken, ← left, ← ih (cutRest cut)]

section Run

variable {runner : Runner} {accepts : Acceptance} {base : Command}

def Accepted (runner : Runner) (accepts : Acceptance) (base : Command) :
    List (List String) → List Output → Prop :=
  List.Forall₂ (fun group out => runner.run accepts (base ++ group) = .ok out)

theorem runGroupsAppend {before : List (List String)} {outs : List Output}
    (accepted : Accepted runner accepts base before outs) (read : Output → List Finding)
    (groups : List (List String)) :
    runGroups runner accepts read base (before ++ groups) =
      ⟨before.map (base ++ ·) ++ (runGroups runner accepts read base groups).calls,
        (runGroups runner accepts read base groups).result.map (outs.flatMap read ++ ·)⟩ := by
  induction accepted with
  | nil => simp
  | cons first rest ih =>
    rw [List.cons_append, runGroups, first, ih]
    simp

theorem acceptedEach {groups : List (List String)} {read : Output → List Finding}
    {found : List String → List Finding}
    (each : ∀ group ∈ groups, ∃ out, runner.run accepts (base ++ group) = .ok out ∧
      read out = found group) :
    ∃ outs, Accepted runner accepts base groups outs ∧
      outs.flatMap read = groups.flatMap found := by
  induction groups with
  | nil => exact ⟨[], .nil, rfl⟩
  | cons group groups ih =>
    obtain ⟨out, first, same⟩ := each group List.mem_cons_self
    obtain ⟨outs, later, rest⟩ :=
      ih (fun other member => each other (List.mem_cons_of_mem group member))
    refine ⟨out :: outs, .cons first later, ?_⟩
    rw [List.flatMap_cons, List.flatMap_cons, same, rest]

theorem runGroupsAccepted {groups : List (List String)} {outs : List Output}
    (accepted : Accepted runner accepts base groups outs) (read : Output → List Finding) :
    runGroups runner accepts read base groups =
      ⟨groups.map (base ++ ·), .ok (outs.flatMap read)⟩ := by
  have whole := runGroupsAppend accepted read []
  simpa [runGroups] using whole

theorem runGroupsRejected {before : List (List String)} {outs : List Output} {group : List String}
    {failure : Failure} (accepted : Accepted runner accepts base before outs)
    (rejected : runner.run accepts (base ++ group) = .error failure) (read : Output → List Finding)
    (after : List (List String)) :
    runGroups runner accepts read base (before ++ group :: after) =
      ⟨(before ++ [group]).map (base ++ ·), .error failure⟩ := by
  rw [runGroupsAppend accepted, runGroups, rejected]
  simp

end Run

theorem batchedAllOrNothing (runner : Runner) (accepts : Acceptance) (read : Output → List Finding)
    (base : Command) (files : List String) :
    (∃! groups, Cut 200 files groups) ∧
      ∀ groups, Cut 200 files groups →
        (∀ outs, Accepted runner accepts base groups outs →
          runBatched runner accepts read base files =
            ⟨groups.map (base ++ ·), .ok (outs.flatMap read)⟩) ∧
        (∀ before group after outs failure, groups = before ++ group :: after →
          Accepted runner accepts base before outs →
          runner.run accepts (base ++ group) = .error failure →
          runBatched runner accepts read base files =
            ⟨(before ++ [group]).map (base ++ ·), .error failure⟩) ∧
        (files = [] → runBatched runner accepts read base files = ⟨[], .ok []⟩) := by
  refine ⟨⟨batches files, batchesCut files, fun groups => cutBatches⟩, fun groups cut => ?_⟩
  rw [runBatched, ← cutBatches cut]
  refine ⟨fun outs accepted => runGroupsAccepted accepted read, ?_, ?_⟩
  · rintro before group after outs failure rfl accepted rejected
    exact runGroupsRejected accepted rejected read after
  · rintro rfl
    rw [cutBatches cut, batches, runGroups]

def failsOnB : Runner := fun command =>
  if "b" ∈ command then .ok ⟨"", "broken", some 2⟩ else .ok ⟨"fine", "", some 1⟩

def readWhole (out : Output) : List Finding := [⟨out.stdout, none, none, "read"⟩]

theorem secondBatchDecides :
    Cut 200 (List.replicate 200 "a" ++ ["b", "c"]) [List.replicate 200 "a", ["b", "c"]] ∧
      runBatched failsOnB .exitBelowTwo readWhole ["lint"] (List.replicate 200 "a" ++ ["b", "c"]) =
        ⟨["lint" :: List.replicate 200 "a", ["lint", "b", "c"]],
          .error (.rejected "lint b c" (some 2) "broken")⟩ ∧
      Cut 200 (List.replicate 200 "a" ++ ["c"]) [List.replicate 200 "a", ["c"]] ∧
      runBatched failsOnB .exitBelowTwo readWhole ["lint"] (List.replicate 200 "a" ++ ["c"]) =
        ⟨["lint" :: List.replicate 200 "a", ["lint", "c"]],
          .ok [⟨"fine", none, none, "read"⟩, ⟨"fine", none, none, "read"⟩]⟩ ∧
      Cut 200 [] [] ∧
      runBatched failsOnB .exitBelowTwo readWhole ["lint"] [] = ⟨[], .ok []⟩ := by
  have broken : Cut 200 (List.replicate 200 "a" ++ ["b", "c"])
      [List.replicate 200 "a", ["b", "c"]] :=
    ⟨by decide +kernel, by decide +kernel, by decide +kernel⟩
  have fine : Cut 200 (List.replicate 200 "a" ++ ["c"]) [List.replicate 200 "a", ["c"]] :=
    ⟨by decide +kernel, by decide +kernel, by decide +kernel⟩
  have none : Cut 200 [] [] := ⟨rfl, nofun, nofun⟩
  have first : failsOnB.run .exitBelowTwo (["lint"] ++ List.replicate 200 "a") =
      .ok ⟨"fine", "", some 1⟩ := by decide +kernel
  have batched := batchedAllOrNothing failsOnB .exitBelowTwo readWhole ["lint"]
  refine ⟨broken, ?_, fine, ?_, none, ((batched []).2 [] none).2.2 rfl⟩
  · exact ((batched _).2 _ broken).2.1 [List.replicate 200 "a"] ["b", "c"] []
      [⟨"fine", "", some 1⟩] _ rfl (.cons first .nil) (by decide +kernel)
  · exact ((batched _).2 _ fine).1 [⟨"fine", "", some 1⟩, ⟨"fine", "", some 1⟩]
      (.cons first (.cons (by decide +kernel) .nil))

end LintGate.Batch
