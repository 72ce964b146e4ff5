import LintGate.Change.Index
import LintGate.Proofs.Finding.Name
import LintGate.Proofs.Path.Relative

/-! The spellings of a file name that a checker may report, and the one name that the change knows
the file by. Every spelling is rewritten to that name, so whether a finding is kept does not depend
on how its checker writes paths. -/
namespace LintGate.Finding

/- The file `key` below `root`, as a checker may write it. An absolute spelling is any with the
right components: slashes may be repeated and dots may stand inside it. -/
inductive Spells (root key : String) : String → Prop where
  | plain : Spells root key key
  | dotted : Spells root key ("./" ++ key)
  | absolute {file : String} (absolute : Path.isAbsolute file = true)
      (below : Path.components file = Path.components root ++ Path.components key) :
      Spells root key file

theorem Spells.spaced {root key file : String} (rooted : Path.isAbsolute root = true)
    (plain : Path.Plain key) (absolute : Path.isAbsolute file = true)
    (same : (Path.segments file.toList).filter (fun s => !Path.isIdle s) =
      (Path.segments root.toList).filter (fun s => !Path.isIdle s) ++
        Path.segments key.toList) : Spells root key file :=
  .absolute absolute (Path.componentsSpaced absolute rooted plain same)

theorem relativeNameDotted {root key : String} : relativeName root ("./" ++ key) = key := by
  have chars : ("./" ++ key).toList = ['.', '/'] ++ key.toList := String.toList_append
  have relative : Path.isAbsolute ("./" ++ key) = false := by rw [Path.isAbsolute, chars]; rfl
  rw [relativeName, relative, if_neg Bool.false_ne_true, chars, Text.afterAppend]
  exact String.ofList_toList

theorem relativeNameBelow {root file key : String} (absolute : Path.isAbsolute file = true)
    (plain : Path.Plain key) (relative : Path.relative? file root = some key) :
    relativeName root file = key := by
  have unslashed : key.toList.map (fun c => if c = '\\' then '/' else c) = key.toList := by
    conv_rhs => rw [← List.map_id key.toList]
    refine List.map_congr_left (fun c inside => if_neg (fun same => ?_))
    exact Path.plainUnslashed plain (same ▸ inside)
  have whole : Text.after? ['.', '/'] key.toList = none := by
    simpa [Text.startsWith] using Path.plainUndotted plain
  rw [relativeName, absolute, if_pos rfl, relative]
  simp only [unslashed, String.ofList_toList, whole]

theorem relativeNameSpelled {root key file : String} (rooted : Path.isAbsolute root = true)
    (plain : Path.Plain key) (spells : Spells root key file) : relativeName root file = key := by
  cases spells with
  | plain => exact relativeNameSame (Path.plainRelative plain) (Path.plainUndotted plain)
  | dotted => exact relativeNameDotted
  | absolute absolute below =>
    exact relativeNameBelow absolute plain
      (Path.relativeBelow (absolute.trans rooted.symm) plain below)

theorem spellingsLineUp (root key : String) (rooted : Path.isAbsolute root = true)
    (plain : Path.Plain key) (f : Finding) (spells : Spells root key f.file) :
    f.relativeTo root = { f with file := key } ∧
      ∀ changed : ChangedLines,
        changed.keeps (f.relativeTo root).file (f.relativeTo root).line =
          changed.keeps key f.line := by
  have renamed : f.relativeTo root = { f with file := key } := by
    rw [relativeTo, relativeNameSpelled rooted plain spells]
  exact ⟨renamed, fun changed => by rw [renamed]⟩

def spacedFinding : Finding := ⟨"/r//.././q/./a//b.py/", some 3, some 1, "long line"⟩

theorem spacedFindingKept :
    spacedFinding.relativeTo "/r/../q" = ⟨"a/b.py", some 3, some 1, "long line"⟩ ∧
      ∀ changed : ChangedLines,
        changed.keeps (spacedFinding.relativeTo "/r/../q").file (some 3) =
          changed.keeps "a/b.py" (some 3) := by
  have rooted : Path.isAbsolute "/r/../q" = true := by decide
  have plain : Path.Plain "a/b.py" := by decide
  have spells : Spells "/r/../q" "a/b.py" spacedFinding.file :=
    .spaced rooted plain (by decide) (by decide)
  exact spellingsLineUp "/r/../q" "a/b.py" rooted plain spacedFinding spells

end LintGate.Finding
