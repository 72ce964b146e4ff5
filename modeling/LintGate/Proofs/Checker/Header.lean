import LintGate.Checker.Header
import LintGate.Proofs.Checker.Reading
import LintGate.Proofs.Text.Printed

/-! What the header check reports, told by positions. A line is reported when it differs from the
line that is expected at its place, and in no other case. The check compares as far as both lists
of lines go: a file is passed when one of them is the beginning of the other, so a file that ends
before the header does is passed as well. -/
namespace LintGate.Header

/- How many lines stand above the header: the shebang line, where one is configured. -/
def offset : Option String → List (List Char) → Nat
  | some _, first :: _ => if ['#', '!'] <+: first then 1 else 0
  | _, _ => 0

def below (shebang : Option String) (lines : List (List Char)) : List (List Char) :=
  lines.drop (offset shebang lines)

structure Flaw where
  place : Nat
  text : String
deriving DecidableEq, Repr

def Flaw.finding (file : String) (flaw : Flaw) : Finding :=
  ⟨file, some (position flaw.place), none, flaw.text⟩

inductive Wrong (shebang : Option String) (expected lines : List (List Char)) : Flaw → Prop where
  | shebang {wanted : String} (configured : shebang = some wanted)
      (apart : offset shebang lines = 1) (filled : expected ≠ [])
      (other : lines[0]? ≠ some wanted.toList) :
      Wrong shebang expected lines ⟨1, "Shebang line should be " ++ wanted ++ "."⟩
  | line {i : Nat} {want line : List Char} (wanted : expected[i]? = some want)
      (stands : lines[offset shebang lines + i]? = some line) (other : line ≠ want) :
      Wrong shebang expected lines
        ⟨offset shebang lines + (i + 1), "Line should be: " ++ String.ofList want⟩

structure Listed (shebang : Option String) (expected lines : List (List Char))
    (flaws : List Flaw) : Prop where
  ascending : flaws.Pairwise (fun a b => a.place < b.place)
  exactly : ∀ flaw, flaw ∈ flaws ↔ Wrong shebang expected lines flaw

section Lines

inductive Differs (before : Nat) (expected lines : List (List Char)) : Flaw → Prop where
  | line {i : Nat} {want line : List Char} (wanted : expected[i]? = some want)
      (stands : lines[i]? = some line) (other : line ≠ want) :
      Differs before expected lines ⟨before + (i + 1), "Line should be: " ++ String.ofList want⟩

variable {before : Nat} {expected lines : List (List Char)} {flaw : Flaw}

theorem differsBehind (differs : Differs before expected lines flaw) : before < flaw.place := by
  cases differs with
  | line => exact Nat.lt_add_of_pos_right (Nat.succ_pos _)

theorem differsFilled (differs : Differs before expected lines flaw) :
    expected ≠ [] ∧ lines ≠ [] := by
  obtain ⟨wanted, stands, -⟩ := differs
  constructor
  · rintro rfl
    cases wanted
  · rintro rfl
    cases stands

theorem differsCons {want line : List Char} :
    Differs before (want :: expected) (line :: lines) flaw ↔
      (line ≠ want ∧ flaw = ⟨before + 1, "Line should be: " ++ String.ofList want⟩) ∨
        Differs (before + 1) expected lines flaw := by
  have shift : ∀ i, before + 1 + (i + 1) = before + (i + 1 + 1) := fun i => by omega
  constructor
  · rintro ⟨wanted, stands, other⟩
    rename_i i _ _
    cases i with
    | zero =>
      cases wanted
      cases stands
      exact .inl ⟨other, rfl⟩
    | succ i =>
      rw [List.getElem?_cons_succ] at wanted stands
      rw [← shift]
      exact .inr (.line wanted stands other)
  · rintro (⟨other, rfl⟩ | ⟨wanted, stands, other⟩)
    · exact .line (i := 0) rfl rfl other
    · rw [shift]
      exact .line (List.getElem?_cons_succ.trans wanted) (List.getElem?_cons_succ.trans stands)
        other

theorem compareLinesListed (file : String) (before : Nat) (expected lines : List (List Char)) :
    ∃ flaws : List Flaw,
      compareLines file (before + 1) expected lines = flaws.map (Flaw.finding file) ∧
      flaws.Pairwise (fun a b => a.place < b.place) ∧
      ∀ flaw, flaw ∈ flaws ↔ Differs before expected lines flaw := by
  induction expected generalizing before lines with
  | nil =>
    refine ⟨[], rfl, .nil, fun flaw => iff_of_false List.not_mem_nil ?_⟩
    exact fun differs => (differsFilled differs).1 rfl
  | cons want expected ih =>
    cases lines with
    | nil =>
      refine ⟨[], rfl, .nil, fun flaw => iff_of_false List.not_mem_nil ?_⟩
      exact fun differs => (differsFilled differs).2 rfl
    | cons line lines =>
      obtain ⟨flaws, same, ascending, exactly⟩ := ih (before + 1) lines
      by_cases right : line = want
      · refine ⟨flaws, by simp [compareLines, right, same], ascending, fun flaw => ?_⟩
        rw [exactly, differsCons]
        simp [right]
      · refine ⟨⟨before + 1, "Line should be: " ++ String.ofList want⟩ :: flaws, ?_, ?_, ?_⟩
        · simp [compareLines, right, same, wrongLine, Flaw.finding]
        · refine .cons (fun flaw member => ?_) ascending
          exact differsBehind ((exactly flaw).mp member)
        · intro flaw
          rw [List.mem_cons, exactly, differsCons]
          simp [right]

theorem compareLinesSilent (file : String) (number : Nat) (expected lines : List (List Char)) :
    compareLines file number expected lines = [] ↔ expected <+: lines ∨ lines <+: expected := by
  induction expected generalizing number lines with
  | nil => simp [compareLines]
  | cons want expected ih =>
    cases lines with
    | nil => simp [compareLines]
    | cons line lines =>
      rw [List.cons_prefix_cons, List.cons_prefix_cons, compareLines]
      by_cases right : line = want
      · simp [right, ih]
      · simp [right, Ne.symm right]

end Lines

section File

variable (file : String) (shebang : Option String) (expected lines : List (List Char))

def shebangFlaws : Option String → List (List Char) → List (List Char) → List Flaw
  | some wanted, _ :: _, first :: _ =>
    if ['#', '!'] <+: first ∧ first ≠ wanted.toList then
      [⟨1, "Shebang line should be " ++ wanted ++ "."⟩]
    else []
  | _, _, _ => []

theorem checkParts :
    check file shebang expected lines =
      (shebangFlaws shebang expected lines).map (Flaw.finding file) ++
        compareLines file (offset shebang lines + 1) expected (below shebang lines) := by
  have nothing : ∀ number lines, compareLines file number [] lines = [] := fun _ _ => rfl
  rcases shebang with _ | wanted
  · rfl
  rcases expected with _ | ⟨want, expected⟩
  -- The shebang is not looked at here, so the two sides compare from different lines on.
  · simp [check, shebangFlaws, nothing]
  rcases lines with _ | ⟨first, lines⟩
  · rfl
  by_cases marked : ['#', '!'] <+: first
  · have starts := Text.startsWithIff.mpr marked
    by_cases right : first = wanted.toList
    · subst right
      simp [check, shebangFlaws, below, offset, starts, marked]
    · simp [check, shebangFlaws, below, offset, starts, marked, right, Flaw.finding, wrongShebang]
      rfl
  · have starts := mt Text.startsWithIff.mp marked
    simp [check, shebangFlaws, below, offset, starts, marked]

theorem shebangFlawsListed {flaw : Flaw} :
    flaw ∈ shebangFlaws shebang expected lines ↔
      ∃ wanted, shebang = some wanted ∧ offset shebang lines = 1 ∧ expected ≠ [] ∧
        lines[0]? ≠ some wanted.toList ∧
        flaw = ⟨1, "Shebang line should be " ++ wanted ++ "."⟩ := by
  rcases shebang with _ | wanted
  · simp [shebangFlaws]
  rcases expected with _ | ⟨want, expected⟩
  · simp [shebangFlaws]
  rcases lines with _ | ⟨first, lines⟩
  · simp [shebangFlaws, offset]
  by_cases marked : ['#', '!'] <+: first
  · by_cases right : first = wanted.toList
    · simp [shebangFlaws, right]
    · simp [shebangFlaws, offset, marked, right]
  · simp [shebangFlaws, offset, marked]

theorem wrongParts {flaw : Flaw} :
    Wrong shebang expected lines flaw ↔
      flaw ∈ shebangFlaws shebang expected lines ∨
        Differs (offset shebang lines) expected (below shebang lines) flaw := by
  rw [shebangFlawsListed]
  constructor
  · rintro (⟨configured, apart, filled, other⟩ | ⟨wanted, stands, other⟩)
    · exact .inl ⟨_, configured, apart, filled, other, rfl⟩
    · exact .inr (.line wanted (List.getElem?_drop.trans stands) other)
  · rintro (⟨wanted, configured, apart, filled, other, rfl⟩ | ⟨wanted, stands, other⟩)
    · exact .shebang configured apart filled other
    · exact .line wanted (List.getElem?_drop.symm.trans stands) other

theorem shebangFlawsAscending :
    (shebangFlaws shebang expected lines).Pairwise (fun a b => a.place < b.place) := by
  unfold shebangFlaws
  split
  · split
    · exact List.pairwise_singleton _ _
    · exact .nil
  · exact .nil

theorem checkListed :
    ∃ flaws, Listed shebang expected lines flaws ∧
      check file shebang expected lines = flaws.map (Flaw.finding file) := by
  obtain ⟨flaws, same, ascending, exactly⟩ :=
    compareLinesListed file (offset shebang lines) expected (below shebang lines)
  refine ⟨shebangFlaws shebang expected lines ++ flaws, ⟨?_, fun flaw => ?_⟩, ?_⟩
  · refine List.pairwise_append.mpr
      ⟨shebangFlawsAscending shebang expected lines, ascending, fun top isTop flaw member => ?_⟩
    obtain ⟨_, _, apart, _, _, rfl⟩ := (shebangFlawsListed shebang expected lines).mp isTop
    have behind := differsBehind ((exactly flaw).mp member)
    rwa [apart] at behind
  · rw [List.mem_append, exactly, wrongParts]
  · rw [checkParts, same, List.map_append]

variable {file shebang expected lines}

theorem offsetWithin : offset shebang lines ≤ lines.length := by
  unfold offset
  split
  · split
    · exact Nat.succ_le_succ (Nat.zero_le _)
    · exact Nat.zero_le _
  · exact Nat.zero_le _

theorem wrongWithin {flaw : Flaw} (wrong : Wrong shebang expected lines flaw) :
    flaw.place ≤ lines.length := by
  cases wrong with
  | shebang configured apart filled other => exact apart ▸ offsetWithin
  | line wanted stands other => exact (List.getElem?_eq_some_iff.mp stands).1

theorem checkFile {m : Finding} (member : m ∈ check file shebang expected lines) :
    m.file = file := by
  obtain ⟨flaws, -, same⟩ := checkListed file shebang expected lines
  rw [same] at member
  obtain ⟨flaw, -, rfl⟩ := List.mem_map.mp member
  rfl

end File

theorem checkPositional (o : Options) (expected : List (List Char)) (file source : String) :
    ∃ flaws, Listed o.shebang expected (Text.lines source.toList) flaws ∧
      check file o.shebang expected (Text.lines source.toList) = flaws.map (Flaw.finding file) ∧
      ((Text.lines source.toList).length ≤ lastPosition →
        ∀ flaw ∈ flaws, (flaw.finding file).line = some flaw.place) ∧
      ∀ ctx earlier collected later, checkFiles ctx o expected earlier = .ok collected →
        ctx.tree.readText (Path.join ctx.root file) = .ok source →
        checkFiles ctx o expected (earlier ++ file :: later) =
          (checkFiles ctx o expected later).map
            (fun found => collected ++ (flaws.map (Flaw.finding file) ++ found)) := by
  obtain ⟨flaws, listed, same⟩ :=
    checkListed file o.shebang expected (Text.lines source.toList)
  refine ⟨flaws, listed, same, fun short flaw member => ?_, ?_⟩
  · have within := wrongWithin ((listed.exactly flaw).mp member)
    exact congrArg some (Nat.min_eq_left (within.trans short))
  · intro ctx earlier collected later ok text
    obtain ⟨readable, rfl⟩ := checkEachOk.mp ok
    rw [checkFiles, checkEachAppend _ readable, checkEachCons (readableText text), foundInText text,
      same]
    cases checkEach ctx _ later with
    | error e => rfl
    | ok found => rfl

def twoScripts : Context :=
  .ofFiles [("a.py", "y\nx".toUTF8), ("b.py", "#!sh\nx\r\nz\nw\n".toUTF8)]

set_option maxRecDepth 10000 in
theorem placesBelowShebang :
    checkFiles twoScripts Options.default [['x'], ['y']] ["a.py"] =
        .ok [⟨"a.py", some 1, none, "Line should be: x"⟩,
          ⟨"a.py", some 2, none, "Line should be: y"⟩] ∧
      twoScripts.tree.readText "./b.py" = .ok "#!sh\nx\r\nz\nw\n" ∧
      (Text.lines "#!sh\nx\r\nz\nw\n".toList).length ≤ lastPosition ∧
      (∃ flaws, Listed Options.default.shebang [['x'], ['y']]
          (Text.lines "#!sh\nx\r\nz\nw\n".toList) flaws ∧
        ∀ flaw ∈ flaws, (flaw.finding "b.py").line = some flaw.place) ∧
      checkFiles twoScripts Options.default [['x'], ['y']] ["a.py", "b.py"] =
        .ok [⟨"a.py", some 1, none, "Line should be: x"⟩,
          ⟨"a.py", some 2, none, "Line should be: y"⟩,
          ⟨"b.py", some 1, none, "Shebang line should be #!/usr/bin/env python."⟩,
          ⟨"b.py", some 3, none, "Line should be: y"⟩] := by
  have earlier : checkFiles twoScripts Options.default [['x'], ['y']] ["a.py"] =
      .ok [⟨"a.py", some 1, none, "Line should be: x"⟩,
        ⟨"a.py", some 2, none, "Line should be: y"⟩] := by decide +kernel
  have text : twoScripts.tree.readText "./b.py" = .ok "#!sh\nx\r\nz\nw\n" := by decide +kernel
  have short : (Text.lines "#!sh\nx\r\nz\nw\n".toList).length ≤ lastPosition := by decide +kernel
  obtain ⟨flaws, listed, same, placed, kept⟩ :=
    checkPositional Options.default [['x'], ['y']] "b.py" "#!sh\nx\r\nz\nw\n"
  refine ⟨earlier, text, short, ⟨flaws, listed, placed short⟩,
    (kept twoScripts ["a.py"] _ [] earlier text).trans ?_⟩
  rewrite [← same]
  decide +kernel

def ShebangRight (shebang : Option String) (lines : List (List Char)) : Prop :=
  ∀ wanted, shebang = some wanted → offset shebang lines = 1 → lines[0]? = some wanted.toList

structure HasHeader (shebang : Option String) (expected lines : List (List Char)) : Prop where
  shebangRight : ShebangRight shebang lines
  begins : expected <+: below shebang lines

section Passed

variable {shebang : Option String} {expected lines : List (List Char)}

theorem shebangFlawsNone :
    shebangFlaws shebang expected lines = [] ↔ expected = [] ∨ ShebangRight shebang lines := by
  rw [List.eq_nil_iff_forall_not_mem]
  simp only [shebangFlawsListed]
  constructor
  · intro silent
    by_cases empty : expected = []
    · exact .inl empty
    · refine .inr (fun wanted configured apart => ?_)
      by_contra other
      exact silent _ ⟨wanted, configured, apart, empty, other, rfl⟩
  · rintro right flaw ⟨wanted, configured, apart, filled, other, -⟩
    exact other (right.resolve_left filled wanted configured apart)

theorem checkSilent (file : String) :
    check file shebang expected lines = [] ↔
      expected = [] ∨ ShebangRight shebang lines ∧
        (expected <+: below shebang lines ∨ below shebang lines <+: expected) := by
  rw [checkParts, List.append_eq_nil_iff, List.map_eq_nil_iff, shebangFlawsNone,
    compareLinesSilent]
  constructor
  · rintro ⟨empty | right, agree⟩
    · exact .inl empty
    · exact .inr ⟨right, agree⟩
  · rintro (rfl | ⟨right, agree⟩)
    · exact ⟨.inl rfl, .inl List.nil_prefix⟩
    · exact ⟨.inr right, agree⟩

theorem hasHeaderPassed (file : String) :
    HasHeader shebang expected lines ↔
      check file shebang expected lines = [] ∧ ShebangRight shebang lines ∧
        expected.length ≤ (below shebang lines).length := by
  rw [checkSilent]
  constructor
  · rintro ⟨right, begins⟩
    exact ⟨.inr ⟨right, .inl begins⟩, right, begins.length_le⟩
  · rintro ⟨rfl | ⟨-, begins | short⟩, right, fits⟩
    · exact ⟨right, List.nil_prefix⟩
    · exact ⟨right, begins⟩
    · exact ⟨right, (short.eq_of_length_le fits) ▸ List.prefix_rfl⟩

end Passed

theorem runNames {ctx : Context} {o : Options} {files : List String} {raw : List Finding}
    {template file source : String} (ok : run ctx o files = .ok raw) (member : file ∈ files)
    (header : ctx.tree.readText (Path.join ctx.root o.header) = .ok template)
    (text : ctx.tree.readText (Path.join ctx.root file) = .ok source) :
    (∀ m ∈ raw, m.file ≠ file) ↔
      check file o.shebang (expectedLines o template) (Text.lines source.toList) = [] := by
  have filled : files.isEmpty = false := by simpa using List.ne_nil_of_mem member
  simp only [run, filled, header] at ok
  obtain ⟨-, rfl⟩ := checkEachOk.mp ok
  constructor
  · intro unnamed
    refine List.eq_nil_iff_forall_not_mem.mpr (fun m found => ?_)
    exact unnamed m (List.mem_flatMap.mpr ⟨file, member, foundInText text ▸ found⟩)
      (checkFile found)
  · rintro silent m inside rfl
    obtain ⟨other, -, within⟩ := List.mem_flatMap.mp inside
    obtain ⟨content, read, found⟩ := foundInMem within
    obtain rfl := checkFile found
    cases text.symm.trans read
    rw [silent] at found
    exact absurd found List.not_mem_nil

theorem passedExactly (ctx : Context) (o : Options) (files : List String) (raw : List Finding)
    (template file source : String) (ok : run ctx o files = .ok raw) (member : file ∈ files)
    (header : ctx.tree.readText (Path.join ctx.root o.header) = .ok template)
    (text : ctx.tree.readText (Path.join ctx.root file) = .ok source) :
    ((∀ m ∈ raw, m.file ≠ file) ↔
        expectedLines o template = [] ∨
          ShebangRight o.shebang (Text.lines source.toList) ∧
            (expectedLines o template <+: below o.shebang (Text.lines source.toList) ∨
              below o.shebang (Text.lines source.toList) <+: expectedLines o template)) ∧
      (HasHeader o.shebang (expectedLines o template) (Text.lines source.toList) ↔
        (∀ m ∈ raw, m.file ≠ file) ∧ ShebangRight o.shebang (Text.lines source.toList) ∧
          (expectedLines o template).length ≤
            (below o.shebang (Text.lines source.toList)).length) := by
  rw [runNames ok member header text]
  exact ⟨checkSilent file, hasHeaderPassed file⟩

def threeScripts : Context :=
  .ofFiles [("HEADER", "X\n".toUTF8), ("EMPTY", "".toUTF8),
    ("a.py", "#!/usr/bin/env python\n# -*- coding: utf-8 -*-\n# X\n".toUTF8),
    ("b.py", "# -*- coding: utf-8 -*-\n".toUTF8), ("c.py", "#!sh\n".toUTF8)]

set_option maxRecDepth 10000 in
theorem fullHeaderPassed :
    run threeScripts Options.default ["a.py", "b.py"] = .ok [] ∧
      threeScripts.tree.readText "./HEADER" = .ok "X\n" ∧
      threeScripts.tree.readText "./a.py" =
        .ok "#!/usr/bin/env python\n# -*- coding: utf-8 -*-\n# X\n" ∧
      HasHeader Options.default.shebang (expectedLines Options.default "X\n")
        (Text.lines "#!/usr/bin/env python\n# -*- coding: utf-8 -*-\n# X\n".toList) := by
  have ok : run threeScripts Options.default ["a.py", "b.py"] = .ok [] := by decide +kernel
  have header : threeScripts.tree.readText "./HEADER" = .ok "X\n" := by decide +kernel
  have text : threeScripts.tree.readText "./a.py" =
      .ok "#!/usr/bin/env python\n# -*- coding: utf-8 -*-\n# X\n" := by decide +kernel
  have exactly := passedExactly threeScripts Options.default ["a.py", "b.py"] [] "X\n" "a.py" _ ok
    (by decide) header text
  have right : ShebangRight Options.default.shebang
      (Text.lines "#!/usr/bin/env python\n# -*- coding: utf-8 -*-\n# X\n".toList) := by
    intro wanted configured _
    cases configured
    decide +kernel
  exact ⟨ok, header, text, exactly.2.mpr ⟨fun _ => nofun, right, by decide +kernel⟩⟩

set_option maxRecDepth 10000 in
theorem passedWithoutHeader :
    (run threeScripts Options.default ["b.py"] = .ok [] ∧
        threeScripts.tree.readText "./HEADER" = .ok "X\n" ∧
        threeScripts.tree.readText "./b.py" = .ok "# -*- coding: utf-8 -*-\n" ∧
        ¬ HasHeader Options.default.shebang (expectedLines Options.default "X\n")
          (Text.lines "# -*- coding: utf-8 -*-\n".toList)) ∧
      run threeScripts { Options.default with header := "EMPTY", extra := [] } ["c.py"] = .ok [] ∧
        threeScripts.tree.readText "./EMPTY" = .ok "" ∧
        threeScripts.tree.readText "./c.py" = .ok "#!sh\n" ∧
        ¬ HasHeader Options.default.shebang
          (expectedLines { Options.default with header := "EMPTY", extra := [] } "")
          (Text.lines "#!sh\n".toList) := by
  refine ⟨⟨by decide +kernel, by decide +kernel, by decide +kernel, fun has => ?_⟩,
    by decide +kernel, by decide +kernel, by decide +kernel, fun has => ?_⟩
  · exact absurd has.begins (by decide +kernel)
  · exact absurd (has.shebangRight _ rfl (by decide +kernel)) (by decide +kernel)

end LintGate.Header
