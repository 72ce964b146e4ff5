import LintGate.Proofs.Checker.Whitespace
import LintGate.Proofs.Text.Trimmed
import Mathlib.Algebra.GroupWithZero.Nat

/-! What the white-space check finds where all lines are looked at. Each line is told by its own
characters: blanks at its end by the last character before them, a tab by the characters before the
first one. The findings of a run are these and no others, in the order of the files and of their
lines; a file that cannot be read is the whole result. -/
namespace LintGate.Whitespace

inductive EndFlaws (file : String) (number : Nat) : List Char → List Finding → Prop where
  | clean {line : List Char} (solid : ∀ c, line.getLast? = some c → Text.isBlank c = false) :
      EndFlaws file number line []
  | blanks {front back : List Char} (filled : back ≠ []) (blanks : Text.Blanks back)
      (solid : ∀ c, front.getLast? = some c → Text.isBlank c = false) :
      EndFlaws file number (front ++ back)
        [⟨file, some number, some (front.length + 1), "Trailing whitespace"⟩]

inductive TabFlaws (file : String) (number : Nat) : Bool → List Char → List Finding → Prop where
  | ignored {line : List Char} : TabFlaws file number false line []
  | clean {line : List Char} (free : '\t' ∉ line) : TabFlaws file number true line []
  | tab {before after : List Char} (free : '\t' ∉ before) :
      TabFlaws file number true (before ++ '\t' :: after)
        [⟨file, some number, some (before.length + 1), "Tab character"⟩]

inductive LinesFlaws (o : Options) (file : String) :
    Nat → List (List Char) → List Finding → Prop where
  | nil {number : Nat} : LinesFlaws o file number [] []
  | cons {number : Nat} {line : List Char} {lines : List (List Char)}
      {ends tabs later : List Finding} (atEnd : EndFlaws file number line ends)
      (atTab : TabFlaws file number o.tabs line tabs)
      (rest : LinesFlaws o file (number + 1) lines later) :
      LinesFlaws o file number (line :: lines) (ends ++ tabs ++ later)

inductive FileFlaws (ctx : Context) (o : Options) (file : String) : List Finding → Prop where
  | noText {bytes : ByteArray} (content : ctx.tree.read (Path.join ctx.root file) = .ok bytes)
      (undecoded : String.fromUTF8? bytes = none) : FileFlaws ctx o file []
  | text {bytes : ByteArray} {source : String} {found : List Finding}
      (content : ctx.tree.read (Path.join ctx.root file) = .ok bytes)
      (decoded : String.fromUTF8? bytes = some source)
      (lines : LinesFlaws o file 1 (Text.lines source.toList) found) : FileFlaws ctx o file found

inductive FilesFlaws (ctx : Context) (o : Options) : List String → List Finding → Prop where
  | nil : FilesFlaws ctx o [] []
  | cons {file : String} {files : List String} {found later : List Finding}
      (first : FileFlaws ctx o file found) (rest : FilesFlaws ctx o files later) :
      FilesFlaws ctx o (file :: files) (found ++ later)

structure Short (source : String) : Prop where
  lines : (Text.lines source.toList).length < 2 ^ 32 - 1
  columns : ∀ line ∈ Text.lines source.toList, line.length < 2 ^ 32 - 1

theorem positionFits {n : Nat} (fits : n ≤ 2 ^ 32 - 1) : position n = n := by
  unfold position lastPosition Text.limit32
  omega

section Line

variable {file : String} {number : Nat} (counted : number ≤ 2 ^ 32 - 1)

theorem trailingSolid {line : List Char}
    (solid : ∀ c, line.getLast? = some c → Text.isBlank c = false) :
    trailing file number line = [] := by
  simp [trailing, Text.trimEndFixed.mpr solid]

theorem tabAbsent {cs : List Char} (free : '\t' ∉ cs) : cs.findIdx? (· == '\t') = none := by
  rw [List.findIdx?_eq_none_iff]
  intro c inside
  have other : c ≠ '\t' := fun same => free (same ▸ inside)
  simpa using other

theorem tabFree {line : List Char} (free : '\t' ∉ line) : tab file number line = [] := by
  simp [tab, tabAbsent free]

include counted

theorem trailingBlanks {front back : List Char} (filled : back ≠ []) (blanks : Text.Blanks back)
    (solid : ∀ c, front.getLast? = some c → Text.isBlank c = false)
    (short : (front ++ back).length < 2 ^ 32 - 1) :
    trailing file number (front ++ back) =
      [⟨file, some number, some (front.length + 1), "Trailing whitespace"⟩] := by
  have kept : Text.trimEnd (front ++ back) = front := by
    rw [Text.trimEndBlanks blanks, Text.trimEndFixed.mpr solid]
  have cut : front ≠ front ++ back := by simpa using filled
  have column : position (front.length + 1) = front.length + 1 := by
    rw [List.length_append] at short
    exact positionFits (by omega)
  simp only [trailing, kept, if_neg cut, positionFits counted, column]

theorem tabFirst {before after : List Char} (free : '\t' ∉ before)
    (short : (before ++ '\t' :: after).length < 2 ^ 32 - 1) :
    tab file number (before ++ '\t' :: after) =
      [⟨file, some number, some (before.length + 1), "Tab character"⟩] := by
  have first : (before ++ '\t' :: after).findIdx? (· == '\t') = some before.length := by
    rw [List.findIdx?_append, tabAbsent free]
    simp [List.findIdx?_cons]
  have column : position (before.length + 1) = before.length + 1 := by
    rw [List.length_append] at short
    exact positionFits (by omega)
  simp only [tab, first, positionFits counted, column]

theorem trailingFlaws {line : List Char} (short : line.length < 2 ^ 32 - 1)
    {found : List Finding} :
    EndFlaws file number line found ↔ trailing file number line = found := by
  constructor
  · intro flaws
    cases flaws with
    | clean solid => exact trailingSolid solid
    | blanks filled blanks solid => exact trailingBlanks counted filled blanks solid short
  · intro same
    subst same
    obtain ⟨back, whole, blanks⟩ := Text.trimEndCut line
    by_cases empty : back = []
    · have fixed : Text.trimEnd line = line := by
        rw [empty, List.append_nil] at whole
        exact whole.symm
      have solid := Text.trimEndFixed.mp fixed
      rw [trailingSolid solid]
      exact .clean solid
    · have solid := fun c => Text.trimEndLast (c := c) line
      generalize Text.trimEnd line = front at whole solid
      subst whole
      rw [trailingBlanks counted empty blanks solid short]
      exact .blanks empty blanks solid

theorem tabFlaws {line : List Char} (short : line.length < 2 ^ 32 - 1) (tabs : Bool)
    {found : List Finding} :
    TabFlaws file number tabs line found ↔
      (if tabs then tab file number line else []) = found := by
  constructor
  · intro flaws
    cases flaws with
    | ignored => rfl
    | clean free => exact tabFree free
    | tab free => exact tabFirst counted free short
  · intro same
    subst same
    cases tabs with
    | false => exact .ignored
    | true =>
      rw [if_pos rfl]
      by_cases inside : '\t' ∈ line
      · obtain ⟨before, after, whole, free⟩ := List.eq_append_cons_of_mem inside
        subst whole
        rw [tabFirst counted free short]
        exact .tab free
      · rw [tabFree inside]
        exact .clean inside

end Line

/- The line of a list stands at its number, so the last number bounds all of them. -/
theorem checkLinesFlaws {o : Options} {file : String} {number : Nat} {lines : List (List Char)}
    (counted : number + lines.length ≤ 2 ^ 32)
    (short : ∀ line ∈ lines, line.length < 2 ^ 32 - 1) (found : List Finding) :
    LinesFlaws o file number lines found ↔ checkLines o file none number lines = found := by
  induction lines generalizing number found with
  | nil =>
    constructor
    · intro flaws
      cases flaws
      rfl
    · intro same
      subst same
      exact .nil
  | cons line rest ih =>
    rw [List.length_cons] at counted
    have here : number ≤ 2 ^ 32 - 1 := by omega
    have fits := short line List.mem_cons_self
    have later := ih (by omega : number + 1 + rest.length ≤ 2 ^ 32)
      (fun other inside => short other (List.mem_cons_of_mem line inside))
    simp only [checkLines, Option.all_none, if_true, checkLine]
    constructor
    · intro flaws
      obtain _ | ⟨atEnd, atTab, behind⟩ := flaws
      rw [(trailingFlaws here fits).mp atEnd, (tabFlaws here fits o.tabs).mp atTab,
        (later _).mp behind]
    · intro same
      subst same
      exact .cons ((trailingFlaws here fits).mpr rfl) ((tabFlaws here fits o.tabs).mpr rfl)
        ((later _).mpr rfl)

section Files

variable {ctx : Context} {o : Options}

theorem inFileFlaws {file : String} (readable : Readable ctx file)
    (short : ∀ source, ctx.tree.readText (Path.join ctx.root file) = .ok source → Short source)
    (found : List Finding) : FileFlaws ctx o file found ↔ inFile ctx o none file = found := by
  obtain ⟨bytes, content⟩ := readable
  cases decoded : String.fromUTF8? bytes with
  | none =>
    rw [inFile, foundInNothing (textUndecoded content decoded)]
    constructor
    · intro flaws
      cases flaws with
      | noText => rfl
      | text other text =>
        cases content.symm.trans other
        rw [decoded] at text
        cases text
    · intro same
      subst same
      exact .noText content decoded
  | some source =>
    have text := textDecoded content decoded
    obtain ⟨lines, columns⟩ := short source text
    have counted : 1 + (Text.lines source.toList).length ≤ 2 ^ 32 := by omega
    rw [inFile, foundInText text, ← checkLinesFlaws counted columns]
    constructor
    · intro inFile
      cases inFile with
      | noText other undecoded =>
        cases content.symm.trans other
        rw [decoded] at undecoded
        cases undecoded
      | text other again listed =>
        cases content.symm.trans other
        cases decoded.symm.trans again
        exact listed
    · exact .text content decoded

theorem inFilesFlaws {files : List String} (readable : ∀ file ∈ files, Readable ctx file)
    (short : ∀ file ∈ files, ∀ source,
      ctx.tree.readText (Path.join ctx.root file) = .ok source → Short source)
    (found : List Finding) :
    FilesFlaws ctx o files found ↔ files.flatMap (inFile ctx o none) = found := by
  induction files generalizing found with
  | nil =>
    constructor
    · intro flaws
      cases flaws
      rfl
    · intro same
      subst same
      exact .nil
  | cons file rest ih =>
    have here := inFileFlaws (o := o) (readable file List.mem_cons_self)
      (short file List.mem_cons_self)
    have later := ih
      (fun other inside => readable other (List.mem_cons_of_mem file inside))
      (fun other inside => short other (List.mem_cons_of_mem file inside))
    rw [List.flatMap_cons]
    constructor
    · intro flaws
      obtain _ | ⟨first, behind⟩ := flaws
      rw [(here _).mp first, (later _).mp behind]
    · intro same
      subst same
      exact .cons ((here _).mpr rfl) ((later _).mpr rfl)

end Files

theorem flawsExact (ctx : Context) (o : Options) (selection : Selection) :
    ((∀ file ∈ selection.toList, selection.linesOf? file = none) →
      (∀ file ∈ selection.toList, Readable ctx file) →
      (∀ file ∈ selection.toList, ∀ source,
        ctx.tree.readText (Path.join ctx.root file) = .ok source → Short source) →
      (∃ found, (job o ctx selection).result = .ok found) ∧
        ∀ found, (job o ctx selection).result = .ok found ↔
          FilesFlaws ctx o selection.toList found) ∧
    ((∃ file ∈ selection.toList, ¬ Readable ctx file) →
      ∃ before file after e, selection.toList = before ++ file :: after ∧
        (∀ other ∈ before, Readable ctx other) ∧
        ctx.tree.read (Path.join ctx.root file) = .error e ∧
        (job o ctx selection).result =
          .error (.io ("cannot read " ++ Path.join ctx.root file ++ ": " ++ e.message))) := by
  constructor
  · intro unlined readable short
    have found : (job o ctx selection).result =
        .ok (selection.toList.flatMap (inFile ctx o none)) := by
      refine (checkFilesReadable readable o selection).trans
        (congrArg Except.ok (List.flatMap_congr (fun file inside => ?_)))
      rw [unlined file inside]
    refine ⟨⟨_, found⟩, fun listed => ?_⟩
    rw [found, Except.ok.injEq, inFilesFlaws readable short]
  · intro unreadable
    exact checkEachFirst _ unreadable

def mixedFiles : Context :=
  .ofFiles [("a", "é\u00a0\r\r\nx\ty\r\n \t".toUTF8), ("b", ⟨#[0xff, 0x20, 0x0a]⟩)]

theorem mixedReadable : ∀ file ∈ ["b", "a"], Readable mixedFiles file := by
  intro file inside
  rcases List.mem_pair.mp inside with rfl | rfl
  · exact ⟨_, rfl⟩
  · exact ⟨_, rfl⟩

theorem mixedShort : ∀ file ∈ ["b", "a"], ∀ source,
    mixedFiles.tree.readText (Path.join mixedFiles.root file) = .ok source → Short source := by
  have noText : mixedFiles.tree.readText "./b" = .error .notText := by decide +kernel
  have text : mixedFiles.tree.readText "./a" = .ok "é\u00a0\r\r\nx\ty\r\n \t" := by
    decide +kernel
  intro file inside source decoded
  rcases List.mem_pair.mp inside with rfl | rfl
  · cases noText.symm.trans decoded
  · cases text.symm.trans decoded
    exact ⟨by decide +kernel, by decide +kernel⟩

theorem mixedFlaws :
    (∀ file ∈ ["b", "a"], Readable mixedFiles file) ∧ ¬ Readable mixedFiles "c" ∧
      FilesFlaws mixedFiles .default ["b", "a"]
        [⟨"a", some 1, some 2, "Trailing whitespace"⟩, ⟨"a", some 2, some 2, "Tab character"⟩,
          ⟨"a", some 3, some 1, "Trailing whitespace"⟩, ⟨"a", some 3, some 2, "Tab character"⟩] ∧
      ∃ failure, (job .default mixedFiles (.whole ["a", "c"])).result = .error failure := by
  have found : (job .default mixedFiles (.whole ["b", "a"])).result = .ok
      [⟨"a", some 1, some 2, "Trailing whitespace"⟩, ⟨"a", some 2, some 2, "Tab character"⟩,
        ⟨"a", some 3, some 1, "Trailing whitespace"⟩, ⟨"a", some 3, some 2, "Tab character"⟩] := by
    decide +kernel
  have missing : ¬ Readable mixedFiles "c" := by
    intro readable
    obtain ⟨bytes, content⟩ := readable
    cases content
  obtain ⟨listed, -⟩ := flawsExact mixedFiles .default (.whole ["b", "a"])
  obtain ⟨-, failed⟩ := flawsExact mixedFiles .default (.whole ["a", "c"])
  obtain ⟨before, file, after, e, -, -, -, failure⟩ :=
    failed ⟨"c", by simp [Selection.toList], missing⟩
  exact ⟨mixedReadable, missing,
    ((listed (fun _ _ => rfl) mixedReadable mixedShort).2 _).mp found, _, failure⟩

end LintGate.Whitespace
