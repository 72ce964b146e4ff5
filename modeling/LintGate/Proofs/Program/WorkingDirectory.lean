import LintGate.Program.Scripted
import LintGate.Proofs.Config.Root
import LintGate.Proofs.Except

/-! The root as the directory that commands are started in. No command starts in the empty path, and
the root is the empty path exactly when the search began at a relative path and nothing on its way
is marked before the current directory, which it then knows by the empty path. -/
namespace LintGate

structure Lost (tree : FileTree) (start : String) : Prop where
  relative : Path.isAbsolute start = false
  top : Marked tree ""
  only : ∀ chain, Path.Chain start chain → ∀ path ∈ chain, Marked tree path → path = ""

theorem detectRootEmpty (tree : FileTree) {start : String} (filled : start ≠ "") :
    detectRoot tree start = "" ↔ Lost tree start := by
  obtain ⟨chain, walk⟩ := Path.chainExists start
  constructor
  · intro empty
    have present : ∃ path ∈ chain, Marked tree path := by
      by_contra absent
      have kept : detectRoot tree start = start :=
        detectRootUnmarked walk (fun path inside marked => absent ⟨path, inside, marked⟩)
      exact filled (kept.symm.trans empty)
    obtain ⟨⟨before, behind, split, unmarked⟩, top⟩ := empty ▸ detectRootNearest walk present
    have inside : "" ∈ chain := split ▸ List.mem_append_right before List.mem_cons_self
    refine ⟨(Path.chainAbsolute walk inside).symm, top, fun other same path member marked => ?_⟩
    cases Path.chainUnique walk same
    -- the empty path has no parent, so all other paths come before it
    rw [split, Path.chainBehindEmpty walk split] at member
    rcases List.mem_append.mp member with earlier | last
    · exact absurd marked (unmarked path earlier)
    · exact List.mem_singleton.mp last
  · intro lost
    have present : ∃ path ∈ chain, Marked tree path :=
      ⟨"", Path.chainRelative walk lost.relative, lost.top⟩
    obtain ⟨⟨before, behind, split, -⟩, marked⟩ := detectRootNearest walk present
    exact lost.only chain walk _ (split ▸ List.mem_append_right before List.mem_cons_self) marked

namespace FileTree

theorem isFileLocate {tree : FileTree} {path other : String}
    (same : tree.locate path = tree.locate other) : tree.isFile path = tree.isFile other := by
  unfold locate at same
  rw [isFile, isFile, read, read, readFrom, readFrom, same]

structure Opened (path : String) : Prop where
  relative : Path.isAbsolute path = false
  filled : path ≠ ""
  free : '\x00' ∉ path.toList
  short : path.utf8ByteSize ≤ maxPathBytes

instance (path : String) : Decidable (Opened path) :=
  decidable_of_iff (Path.isAbsolute path = false ∧ path ≠ "" ∧ '\x00' ∉ path.toList ∧
      path.utf8ByteSize ≤ maxPathBytes)
    ⟨fun h => ⟨h.1, h.2.1, h.2.2.1, h.2.2.2⟩, fun h => ⟨h.relative, h.filled, h.free, h.short⟩⟩

theorem locateOpened (tree : FileTree) {path : String} (opened : Opened path) :
    tree.locate path = (Path.segments path.toList).foldlM tree.follow (.inside []) := by
  simp [locate, locateFrom, opened.relative, opened.filled, opened.free,
    Nat.not_lt.mpr opened.short]

theorem locateHere (tree : FileTree) {name : String} (opened : Opened name)
    (dotted : Opened ("./" ++ name)) : tree.locate ("./" ++ name) = tree.locate name := by
  have parts : Path.segments ("./" ++ name).toList = ['.'] :: Path.segments name.toList := by
    rw [String.toList_append]
    rfl
  rw [locateOpened tree opened, locateOpened tree dotted, parts]
  rfl

end FileTree

theorem markOpened : ∀ name ∈ ".git" :: configNames,
    FileTree.Opened name ∧ FileTree.Opened ("./" ++ name) := by
  decide

theorem markedHere {tree : FileTree} (top : Marked tree "") : Marked tree "." := by
  have same {name : String} (listed : name ∈ ".git" :: configNames) :
      tree.locate (Path.join "." name) = tree.locate (Path.join "" name) := by
    obtain ⟨opened, dotted⟩ := markOpened name listed
    rw [Path.join, Path.join, opened.relative]
    simpa using tree.locateHere opened dotted
  cases top with
  | config listed file =>
    exact .config listed ((FileTree.isFileLocate (same (List.mem_cons_of_mem _ listed))).trans file)
  | repository entry =>
    refine .repository ?_
    rwa [FileTree.present, same List.mem_cons_self]

theorem detectRootHere (tree : FileTree) : detectRoot tree "." ≠ "" := by
  intro empty
  have lost := (detectRootEmpty tree (by decide)).mp empty
  obtain ⟨chain, walk⟩ := Path.chainExists "."
  exact absurd (lost.only chain walk "." (Path.chainStart walk) (markedHere lost.top)) (by decide)

namespace Settings

theorem mergedRoot {root path : String} {file : ConfigFile} {given : Overrides}
    {settings : Settings} (merged : merge root path file given = .ok settings) :
    settings.root = root := by
  simp only [merge] at merged
  split at merged
  · cases merged
  · split at merged
    · cases merged
    · cases merged
      rfl

theorem resolvedRoot {tree : FileTree} {given : Overrides} {settings : Settings}
    (resolved : resolve tree given = .ok settings) :
    settings.root = detectRoot tree (given.root.getD ".") := by
  have loaded {path : String} (ended : (loadConfig tree path >>= fun file =>
      merge (detectRoot tree (given.root.getD ".")) path file given) = .ok settings) :
      settings.root = detectRoot tree (given.root.getD ".") := by
    obtain ⟨file, -, merged⟩ := bindOk.mp ended
    exact mergedRoot merged
  simp only [resolve] at resolved
  split at resolved
  · exact loaded resolved
  · split at resolved
    · exact loaded resolved
    · cases resolved

end Settings

theorem Shell.Launcher.runUnplaced {l : Launcher} {error : LaunchError}
    (unplaced : l.place = .error error) (command : Command) :
    ∃ reason, l.run command = .error (.spawn (commandLine command) reason) := by
  cases command with
  | nil => exact ⟨_, rfl⟩
  | cons name args =>
    -- a word that no command can have is found even before the directory
    cases nul : (name :: args).any (fun word => word.toList.contains '\x00') with
    | true =>
      simp only [run, nul]
      exact ⟨_, rfl⟩
    | false =>
      simp only [run, nul, unplaced]
      exact ⟨_, rfl⟩

theorem launchNowhere (tree : FileTree) (timeout : Option Nat) (command : Command) :
    ∃ reason, launchIn tree "" timeout command = .error (.spawn (commandLine command) reason) :=
  Shell.Launcher.runUnplaced rfl command

theorem rootEmptyExactly (tree : FileTree) (start : String) (filled : start ≠ "") :
    (detectRoot tree start = "" ↔ Lost tree start) ∧
    (∀ given settings, given.root = some start → Settings.resolve tree given = .ok settings →
      (settings.root = "" ↔ Lost tree start)) ∧
    (∀ given settings, given.root = none → Settings.resolve tree given = .ok settings →
      settings.root ≠ "") ∧
    ∀ timeout command, ∃ reason,
      launchIn tree "" timeout command = .error (.spawn (commandLine command) reason) := by
  refine ⟨detectRootEmpty tree filled, ?_, ?_, launchNowhere tree⟩
  · intro given settings asked resolved
    rw [Settings.resolvedRoot resolved, asked]
    exact detectRootEmpty tree filled
  · intro given settings silent resolved
    rw [Settings.resolvedRoot resolved, silent]
    exact detectRootHere tree

def configuredTop : FileTree :=
  ⟨[([".patchlint.yml"], .file .empty false), (["src"], .directory)], []⟩

theorem directoryBelowTop : "src" ≠ "" ∧ Lost configuredTop "src" :=
  ⟨by decide, (rootEmptyExactly configuredTop "src" (by decide)).1.mp (by decide +kernel)⟩

theorem runBelowTopFails :
    detectRoot configuredTop "src" = "" ∧
      (∃ settings,
        Settings.resolve configuredTop ⟨some "src", none, none, none, none⟩ = .ok settings ∧
          settings.root = "") ∧
      (Program.respond (.scripted configuredTop .empty false)
        ["run", "--repo-root", "src"]).exit = 2 :=
  ⟨by decide +kernel, ⟨_, rfl, by decide +kernel⟩, by decide +kernel⟩

end LintGate
