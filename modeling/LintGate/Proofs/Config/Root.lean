import LintGate.Config.Settings
import LintGate.Proofs.Path.Parents

/-! The root that is found for a path. It is the nearest marked one of the path and the paths above
it, and the path itself where none of them is marked. The search goes through all of them, however
many there are: their number is bounded by the length of the path. -/
namespace LintGate

inductive Marked (tree : FileTree) (directory : String) : Prop where
  | config {name : String} (listed : name ∈ configNames)
      (file : tree.isFile (Path.join directory name) = true)
  | repository (entry : tree.present (Path.join directory ".git") = true)

structure RepositoryOnly (tree : FileTree) (directory : String) : Prop where
  entry : tree.present (Path.join directory ".git") = true
  configless : ∀ name ∈ configNames, tree.isFile (Path.join directory name) = false

structure Nearest (tree : FileTree) (chain : List String) (root : String) : Prop where
  first : ∃ before behind, chain = before ++ root :: behind ∧ ∀ path ∈ before, ¬ Marked tree path
  marked : Marked tree root

theorem configInNone {tree : FileTree} {directory : String} :
    configIn? tree directory = none ↔
      ∀ name ∈ configNames, tree.isFile (Path.join directory name) = false := by
  simp [configIn?]

theorem isRootMarked {tree : FileTree} {directory : String} :
    isRoot tree directory = true ↔ Marked tree directory := by
  rw [isRoot, Bool.or_eq_true]
  constructor
  · rintro (found | entry)
    · obtain ⟨path, inside, file⟩ := List.find?_isSome.mp found
      obtain ⟨name, listed, rfl⟩ := List.mem_map.mp inside
      exact .config listed file
    · exact .repository entry
  · rintro (⟨listed, file⟩ | entry)
    · exact .inl (List.find?_isSome.mpr ⟨_, List.mem_map.mpr ⟨_, listed, rfl⟩, file⟩)
    · exact .inr entry

theorem markedConfigless {tree : FileTree} {directory : String} (marked : Marked tree directory) :
    configIn? tree directory = none ↔ RepositoryOnly tree directory := by
  refine configInNone.trans ⟨fun configless => ⟨?_, configless⟩, RepositoryOnly.configless⟩
  cases marked with
  | config listed file => exact absurd file (by simp [configless _ listed])
  | repository entry => exact entry

theorem unmarkedConfigless {tree : FileTree} {directory : String}
    (unmarked : ¬ Marked tree directory) : configIn? tree directory = none :=
  configInNone.mpr (fun _ listed =>
    Bool.eq_false_iff.mpr (fun file => unmarked (.config listed file)))

theorem nearestRootChain (tree : FileTree) {path : String} {chain : List String}
    (walk : Path.Chain path chain) {fuel : Nat} (enough : chain.length ≤ fuel) :
    nearestRoot? tree path fuel = chain.find? (isRoot tree) := by
  induction walk generalizing fuel with
  | last top =>
    obtain ⟨fuel, rfl⟩ := Nat.exists_eq_add_of_lt enough
    simp [nearestRoot?, top]
  | step up rest ih =>
    cases fuel with
    | zero => cases enough
    | succ fuel =>
      rw [nearestRoot?, up, Option.bind_some, ih (Nat.le_of_succ_le_succ enough), List.find?_cons]
      cases isRoot tree _ <;> rfl

section
variable {tree : FileTree} {start : String} {chain : List String} (walk : Path.Chain start chain)
include walk

theorem detectRootChain : detectRoot tree start = (chain.find? (isRoot tree)).getD start := by
  have enough : chain.length ≤ start.length + 2 := Nat.le_succ_of_le (Path.chainLength walk)
  rw [detectRoot, nearestRootChain tree walk enough]

theorem detectRootNearest (present : ∃ path ∈ chain, Marked tree path) :
    Nearest tree chain (detectRoot tree start) := by
  obtain ⟨path, inside, marked⟩ := present
  cases found : chain.find? (isRoot tree) with
  | none => exact absurd (isRootMarked.mpr marked) (List.find?_eq_none.mp found path inside)
  | some root =>
    obtain ⟨here, before, behind, split, unmarked⟩ := List.find?_eq_some_iff_append.mp found
    rw [detectRootChain walk, found]
    refine ⟨⟨before, behind, split, fun path earlier marked => ?_⟩, isRootMarked.mp here⟩
    simpa [isRootMarked.mpr marked] using unmarked path earlier

theorem detectRootUnmarked (absent : ∀ path ∈ chain, ¬ Marked tree path) :
    detectRoot tree start = start := by
  have none : chain.find? (isRoot tree) = none :=
    List.find?_eq_none.mpr (fun path inside here => absent path inside (isRootMarked.mp here))
  rw [detectRootChain walk, none]
  rfl

end

theorem detectRootMarked {tree : FileTree} {root : String} (marked : Marked tree root) :
    detectRoot tree root = root := by
  rw [detectRoot, nearestRoot?, if_pos (isRootMarked.mpr marked)]
  rfl

theorem nearestMarkedDetected (tree : FileTree) (start : String) :
    ∃ chain, Path.Chain start chain ∧ chain.map Path.components = Path.beginnings start ∧
      ((∃ path ∈ chain, Marked tree path) → Nearest tree chain (detectRoot tree start)) ∧
      ((∀ path ∈ chain, ¬ Marked tree path) → detectRoot tree start = start) ∧
      detectRoot tree (detectRoot tree start) = detectRoot tree start ∧
      (configIn? tree (detectRoot tree start) = none ↔
        RepositoryOnly tree (detectRoot tree start) ∨ ∀ path ∈ chain, ¬ Marked tree path) := by
  obtain ⟨chain, walk⟩ := Path.chainExists start
  refine ⟨chain, walk, Path.chainComponents walk, detectRootNearest walk, detectRootUnmarked walk,
    ?_⟩
  by_cases present : ∃ path ∈ chain, Marked tree path
  · have marked := (detectRootNearest walk present).marked
    obtain ⟨path, inside, markedPath⟩ := present
    refine ⟨detectRootMarked marked, (markedConfigless marked).trans (or_iff_left ?_).symm⟩
    exact fun absent => absent path inside markedPath
  · have absent : ∀ path ∈ chain, ¬ Marked tree path :=
      fun path inside marked => present ⟨path, inside, marked⟩
    rw [detectRootUnmarked walk absent, detectRootUnmarked walk absent]
    have configless := unmarkedConfigless (absent start (Path.chainStart walk))
    exact ⟨rfl, iff_of_true configless (.inr absent)⟩

end LintGate
