import LintGate.Proofs.Path.Relative
import Mathlib.Data.List.Infix

/-! Parents of a path. The parent of a path is a shorter beginning of it, so going from parent to
parent comes to an end, and it has all components of the path but the last one. An absolute path has
only absolute ones above it, and from a relative path the way ends at the empty path. -/
namespace LintGate.Path

inductive Chain : String → List String → Prop where
  | last {path} (top : parent? path = none) : Chain path [path]
  | step {path parent above} (up : parent? path = some parent) (rest : Chain parent above) :
      Chain path (path :: above)

theorem joinSegmentsCons (s : List Char) (ss : List (List Char)) :
    joinSegments (s :: ss) = s ++ ss.flatMap ('/' :: ·) := by
  induction ss generalizing s with
  | nil => simp [joinSegments]
  | cons t ss ih => simp [joinSegments, ih]

theorem joinSegmentsWhole (cs : List Char) : joinSegments (segments cs) = cs := by
  obtain ⟨s, ss, shape, whole⟩ := segmentsShape cs
  rw [shape, joinSegmentsCons, ← whole]

theorem joinSegmentsPrefix {ss ts : List (List Char)} (start : ss <+: ts) :
    joinSegments ss <+: joinSegments ts := by
  cases ss with
  | nil => exact List.nil_prefix
  | cons s ss =>
    obtain ⟨rest, rfl⟩ := start
    rw [List.cons_append, joinSegmentsCons, joinSegmentsCons, List.flatMap_append,
      ← List.append_assoc]
    exact List.prefix_append _ _

theorem joinSegmentsShorter (ss : List (List Char)) {last : List Char} (filled : last ≠ []) :
    (joinSegments ss).length < (joinSegments (ss ++ [last])).length := by
  have long : 0 < last.length := List.length_pos_iff.mpr filled
  cases ss with
  | nil => simpa [joinSegments] using long
  | cons s ss => simp [joinSegmentsCons]

theorem dropIdleEndPrefix (ss : List (List Char)) : dropIdleEnd ss <+: ss :=
  List.rdropWhile_prefix isIdle ss

theorem dropIdleEndNil {ss : List (List Char)} :
    dropIdleEnd ss = [] ↔ ∀ s ∈ ss, isIdle s = true := List.rdropWhile_eq_nil_iff

theorem dropIdleEndLast {ss init : List (List Char)} {last : List Char}
    (shape : dropIdleEnd ss = init ++ [last]) : isIdle last = false := by
  have filled : ss.rdropWhile isIdle ≠ [] := by
    rw [show ss.rdropWhile isIdle = init ++ [last] from shape]
    simp
  have busy := List.rdropWhile_last_not isIdle ss filled
  simpa [show ss.rdropWhile isIdle = init ++ [last] from shape] using busy

theorem headAndBodyWhole (path : String) :
    path.toList = (headAndBody path).1 ++ joinSegments (headAndBody path).2 := by
  unfold headAndBody
  split
  · rename_i rest chars
    rw [chars, joinSegmentsWhole]
    rfl
  · rename_i rest chars
    rw [chars, joinSegmentsWhole]
    rfl
  · rename_i chars
    exact chars
  · rw [joinSegmentsWhole]
    rfl

theorem parentCases {path parent : String} (up : parent? path = some parent) :
    ((headAndBody path).1 = ['.'] ∧ dropIdleEnd (headAndBody path).2 = [] ∧ parent = "") ∨
      ∃ init last, dropIdleEnd (headAndBody path).2 = init ++ [last] ∧
        parent = String.ofList ((headAndBody path).1 ++ joinSegments (dropIdleEnd init)) := by
  unfold parent? at up
  split at up
  rename_i head body parts
  rw [parts]
  split at up
  · rename_i idle
    split at up
    · rename_i dotted
      cases up
      exact .inl ⟨dotted, idle, rfl⟩
    · cases up
  · rename_i busy
    cases up
    obtain ⟨init, last, shape⟩ := (dropIdleEnd body).eq_nil_or_concat'.resolve_left busy
    exact .inr ⟨init, last, shape, by rw [shape, List.dropLast_concat]⟩

theorem parentPrefix {path parent : String} (up : parent? path = some parent) :
    parent.toList <+: path.toList ∧ parent.length < path.length := by
  rw [headAndBodyWhole path, ← String.length_toList, ← String.length_toList, headAndBodyWhole path]
  rcases parentCases up with ⟨dotted, -, rfl⟩ | ⟨init, last, shape, rfl⟩
  · rw [dotted]
    exact ⟨List.nil_prefix, Nat.zero_lt_succ _⟩
  · have start : init ++ [last] <+: (headAndBody path).2 := shape ▸ dropIdleEndPrefix _
    have filled : last ≠ [] := by
      rintro rfl
      exact absurd (dropIdleEndLast shape) (by decide)
    have shorter := joinSegmentsShorter init filled
    have left := (joinSegmentsPrefix (dropIdleEndPrefix init)).length_le
    have right := (joinSegmentsPrefix start).length_le
    have before : dropIdleEnd init <+: (headAndBody path).2 :=
      (dropIdleEndPrefix init).trans ((List.prefix_append init [last]).trans start)
    rw [String.toList_ofList, List.length_append, List.length_append]
    refine ⟨(List.prefix_append_right_inj _).mpr (joinSegmentsPrefix before), ?_⟩
    omega

theorem absoluteChars {path : String} (absolute : isAbsolute path = true) :
    ∃ rest, path.toList = '/' :: rest :=
  List.head?_eq_some_iff.mp (beq_iff_eq.mp absolute)

theorem relativeChars {path : String} (unrooted : ∀ rest, path.toList ≠ '/' :: rest) :
    isAbsolute path = false := by
  refine Bool.eq_false_iff.mpr (fun absolute => ?_)
  obtain ⟨rest, chars⟩ := absoluteChars absolute
  exact unrooted rest chars

theorem absoluteHead {path : String} (absolute : isAbsolute path = true) :
    (headAndBody path).1 = ['/'] := by
  obtain ⟨rest, chars⟩ := absoluteChars absolute
  rw [headAndBody, chars]
  rfl

theorem parentAbsolute {path parent : String} (up : parent? path = some parent) :
    isAbsolute parent = isAbsolute path := by
  cases absolute : isAbsolute path with
  | true =>
    have head := absoluteHead absolute
    rcases parentCases up with ⟨dotted, -⟩ | ⟨_, _, -, rfl⟩
    · rw [head] at dotted
      cases dotted
    · rw [isAbsolute, String.toList_ofList, head]
      rfl
  | false =>
    refine relativeChars (fun rest chars => ?_)
    obtain ⟨behind, whole⟩ := (parentPrefix up).1
    rw [isAbsolute, ← whole, chars] at absolute
    cases absolute

theorem parentNone {path : String} (top : parent? path = none) :
    (headAndBody path).1 ≠ ['.'] ∧ ∀ s ∈ (headAndBody path).2, isIdle s = true := by
  unfold parent? at top
  split at top
  rename_i head body parts
  rw [parts]
  split at top
  · rename_i idle
    split at top
    · cases top
    · rename_i undotted
      exact ⟨undotted, dropIdleEndNil.mp idle⟩
  · cases top

theorem headlessSegments {cs : List Char} (unrooted : ∀ rest, cs ≠ '/' :: rest)
    (undotted : ∀ rest, cs ≠ '.' :: '/' :: rest) (notDot : cs ≠ ['.']) :
    ∃ s ss, segments cs = s :: ss ∧ s ≠ ['.'] ∧ (s = [] → cs = []) := by
  obtain ⟨s, ss, shape, whole⟩ := segmentsShape cs
  refine ⟨s, ss, shape, ?_, ?_⟩
  · rintro rfl
    cases ss with
    | nil => exact notDot whole
    | cons t ss => exact undotted _ whole
  · rintro rfl
    cases ss with
    | nil => exact whole
    | cons t ss => exact absurd whole (unrooted _)

theorem relativeTop {path : String} (relative : isAbsolute path = false)
    (top : parent? path = none) : path = "" := by
  have ends := parentNone top
  unfold headAndBody at ends
  split at ends
  · rename_i rest chars
    rw [isAbsolute, chars] at relative
    cases relative
  · exact absurd rfl ends.1
  · exact absurd rfl ends.1
  · rename_i unrooted undotted notDot
    obtain ⟨s, ss, shape, notHere, empty⟩ := headlessSegments unrooted undotted notDot
    have idle : s = [] ∨ s = ['.'] := by
      simpa [isIdle] using ends.2 s (shape ▸ List.mem_cons_self)
    exact String.toList_eq_nil_iff.mp (empty (idle.resolve_right notHere))

def Component.ofHead (head : List Char) : List Component :=
  if head = ['/'] then [.root] else if head = ['.'] then [.here] else []

theorem segmentsJoined {ss : List (List Char)} (filled : ss ≠ []) (free : ∀ s ∈ ss, '/' ∉ s) :
    segments (joinSegments ss) = ss := by
  induction ss with
  | nil => exact absurd rfl filled
  | cons s ss ih =>
    obtain ⟨first, later⟩ := List.forall_mem_cons.mp free
    cases ss with
    | nil => exact Text.piecesAbsent first
    | cons t ss =>
      have rest := ih (List.cons_ne_nil t ss) later
      rw [joinSegments, segments, Text.piecesAppend (by decide), Text.piecesAbsent first]
      · exact congrArg (s :: ·) rest
      · exact List.cons_ne_nil t ss

theorem componentsJoined {ss : List (List Char)} (free : ∀ s ∈ ss, '/' ∉ s) :
    (segments (joinSegments ss)).filterMap Component.ofSegment? =
      ss.filterMap Component.ofSegment? := by
  cases ss with
  | nil => rfl
  | cons s ss => rw [segmentsJoined (List.cons_ne_nil s ss) free]

theorem componentsIdleEnd (ss : List (List Char)) :
    (dropIdleEnd ss).filterMap Component.ofSegment? = ss.filterMap Component.ofSegment? := by
  have idle : (ss.rtakeWhile isIdle).filterMap Component.ofSegment? = [] := by
    refine List.filterMap_eq_nil_iff.mpr (fun s inside => ?_)
    rw [Component.ofSegment?, if_pos (List.mem_rtakeWhile_imp inside)]
  have whole : dropIdleEnd ss ++ ss.rtakeWhile isIdle = ss := List.rdropWhile_append_rtakeWhile
  conv => rhs; rw [← whole, List.filterMap_append, idle, List.append_nil]

theorem componentsNamed {path : String} (relative : isAbsolute path = false)
    (undotted : (segments path.toList).head? ≠ some ['.']) :
    components path = (segments path.toList).filterMap Component.ofSegment? := by
  rw [components, relative]
  split
  · rename_i rest shape
    exact absurd (by rw [shape]; rfl) undotted
  · rfl

theorem componentsRooted {path : String} {cs : List Char} (chars : path.toList = '/' :: cs) :
    components path = .root :: (segments cs).filterMap Component.ofSegment? := by
  rw [componentsAbsolute (by rw [isAbsolute, chars]; rfl), chars]
  rfl

theorem componentsDotted {path : String} {cs : List Char} (chars : path.toList = '.' :: '/' :: cs) :
    components path = .here :: (segments cs).filterMap Component.ofSegment? := by
  rw [components, chars]
  rfl

theorem componentsHere {path : String} (chars : path.toList = ['.']) :
    components path = [.here] := by
  rw [components, chars]
  rfl

theorem componentsParts (path : String) :
    components path = Component.ofHead (headAndBody path).1 ++
      (headAndBody path).2.filterMap Component.ofSegment? := by
  unfold headAndBody
  split
  · rename_i rest chars
    exact componentsRooted chars
  · rename_i rest chars
    rw [componentsDotted chars]
    rfl
  · rename_i chars
    exact componentsHere chars
  · rename_i unrooted undotted notDot
    obtain ⟨s, ss, shape, notHere, -⟩ := headlessSegments unrooted undotted notDot
    refine componentsNamed (relativeChars unrooted) ?_
    rw [shape]
    exact fun same => notHere (Option.some.inj same)

theorem bodyFree {path : String} {s : List Char} (member : s ∈ (headAndBody path).2) : '/' ∉ s := by
  unfold headAndBody at member
  split at member
  · exact segmentSlashFree member
  · exact segmentSlashFree member
  · exact absurd member List.not_mem_nil
  · exact segmentSlashFree member

theorem componentsKept {path : String} {kept : List (List Char)}
    (start : kept <+: (headAndBody path).2) (busy : dropIdleEnd kept = kept) :
    components (String.ofList ((headAndBody path).1 ++ joinSegments kept)) =
      Component.ofHead (headAndBody path).1 ++ kept.filterMap Component.ofSegment? := by
  have free : ∀ s ∈ kept, '/' ∉ s := fun s inside => bodyFree (start.subset inside)
  revert start
  unfold headAndBody
  split
  · intro start
    have later := componentsJoined free
    exact (componentsRooted String.toList_ofList).trans (congrArg (.root :: ·) later)
  · rename_i rest chars
    intro start
    -- the slash behind the dot makes an empty segment, which is not the last one that is kept
    match kept with
    | [] => exact componentsHere String.toList_ofList
    | [s] =>
      cases (List.cons_prefix_cons.mp start).1
      exact absurd busy (by decide)
    | s :: t :: kept =>
      cases (List.cons_prefix_cons.mp start).1
      have later := componentsJoined (List.forall_mem_cons.mp free).2
      exact (componentsDotted String.toList_ofList).trans (congrArg (.here :: ·) later)
  · intro start
    cases List.prefix_nil.mp start
    exact componentsHere String.toList_ofList
  · rename_i unrooted undotted notDot
    intro start
    obtain ⟨first, ss, shape, notHere, -⟩ := headlessSegments unrooted undotted notDot
    cases kept with
    | nil => rfl
    | cons s kept =>
      have split := segmentsJoined (List.cons_ne_nil s kept) free
      have same : s = first := (List.cons_prefix_cons.mp (shape ▸ start)).1
      have front := joinSegmentsPrefix start
      rw [joinSegmentsWhole] at front
      rw [List.nil_append, componentsNamed (relativeChars ?_), String.toList_ofList, split]
      · rfl
      · rw [String.toList_ofList, split]
        exact fun dotted => notHere (same ▸ Option.some.inj dotted)
      · intro rest chars
        obtain ⟨behind, whole⟩ := front
        rw [String.toList_ofList] at chars
        exact unrooted (rest ++ behind) (by rw [← whole, chars]; rfl)

theorem parentComponents {path parent : String} (up : parent? path = some parent) :
    ∃ c, components path = components parent ++ [c] := by
  rcases parentCases up with ⟨dotted, idle, rfl⟩ | ⟨init, last, shape, rfl⟩
  · refine ⟨.here, ?_⟩
    rw [componentsParts, dotted, ← componentsIdleEnd, idle]
    rfl
  · have named : ∃ c, Component.ofSegment? last = some c := by
      rw [Component.ofSegment?, dropIdleEndLast shape]
      split
      · contradiction
      · split
        · exact ⟨_, rfl⟩
        · exact ⟨_, rfl⟩
    obtain ⟨c, component⟩ := named
    have start : dropIdleEnd init <+: (headAndBody path).2 :=
      (dropIdleEndPrefix init).trans ((List.prefix_append init [last]).trans
        (shape ▸ dropIdleEndPrefix _))
    have busy : dropIdleEnd (dropIdleEnd init) = dropIdleEnd init :=
      List.rdropWhile_idempotent isIdle init
    refine ⟨c, ?_⟩
    rw [componentsKept start busy, componentsParts, ← componentsIdleEnd (headAndBody path).2, shape,
      componentsIdleEnd, List.filterMap_append, List.append_assoc]
    simp [component]

theorem topComponents {path : String} (top : parent? path = none) :
    components path = if isAbsolute path then [.root] else [] := by
  cases absolute : isAbsolute path with
  | false =>
    rw [relativeTop absolute top]
    rfl
  | true =>
    have idle := (parentNone top).2
    rw [componentsParts, ← componentsIdleEnd, dropIdleEndNil.mpr idle, absoluteHead absolute]
    rfl

theorem chainExists (path : String) : ∃ chain, Chain path chain := by
  induction size : path.length using Nat.strongRecOn generalizing path with
  | ind n ih =>
    cases up : parent? path with
    | none => exact ⟨[path], .last up⟩
    | some parent =>
      obtain ⟨above, rest⟩ := ih parent.length (size ▸ (parentPrefix up).2) parent rfl
      exact ⟨path :: above, .step up rest⟩

theorem chainUnique {path : String} {chain other : List String} (walk : Chain path chain)
    (same : Chain path other) : chain = other := by
  induction walk generalizing other with
  | last top =>
    cases same with
    | last => rfl
    | step up => cases top.symm.trans up
  | step up rest ih =>
    cases same with
    | last top => cases top.symm.trans up
    | step also others =>
      cases up.symm.trans also
      rw [ih others]

theorem chainStart {path : String} {chain : List String} (walk : Chain path chain) :
    path ∈ chain := by
  cases walk with
  | last top => exact List.mem_cons_self
  | step up rest => exact List.mem_cons_self

theorem chainLength {path : String} {chain : List String} (walk : Chain path chain) :
    chain.length ≤ path.length + 1 := by
  induction walk with
  | last top => exact Nat.le_add_left 1 _
  | step up rest ih =>
    have shorter := (parentPrefix up).2
    rw [List.length_cons]
    omega

theorem chainAbsolute {path above : String} {chain : List String} (walk : Chain path chain)
    (inside : above ∈ chain) : isAbsolute above = isAbsolute path := by
  induction walk with
  | last top => rw [List.mem_singleton.mp inside]
  | step up rest ih =>
    rcases List.mem_cons.mp inside with rfl | later
    · rfl
    · rw [ih later, parentAbsolute up]

/- All beginnings of the components of a path, longest first. The one without any component belongs
to a relative path only: nothing is above the root directory. -/
def beginnings (path : String) : List (List Component) :=
  (if isAbsolute path then (components path).inits.tail else (components path).inits).reverse

theorem chainComponents {path : String} {chain : List String} (walk : Chain path chain) :
    chain.map components = beginnings path := by
  unfold beginnings
  induction walk with
  | @last path top =>
    rw [List.map_singleton, topComponents top]
    cases isAbsolute path <;> rfl
  | @step path parent above up rest ih =>
    obtain ⟨c, whole⟩ := parentComponents up
    rw [List.map_cons, ih, parentAbsolute up, whole, List.inits_append]
    cases isAbsolute path with
    | false => simp
    | true =>
      have filled : (components parent).inits ≠ [] := by cases components parent <;> simp
      simp [List.tail_append_of_ne_nil filled]

theorem chainRelative {path : String} {chain : List String} (walk : Chain path chain)
    (relative : isAbsolute path = false) : "" ∈ chain := by
  induction walk with
  | last top => exact List.mem_singleton.mpr (relativeTop relative top).symm
  | step up rest ih => exact List.mem_cons_of_mem _ (ih ((parentAbsolute up).trans relative))

theorem chainBehindEmpty {path : String} {chain before behind : List String}
    (walk : Chain path chain) (split : chain = before ++ "" :: behind) : behind = [] := by
  induction walk generalizing before with
  | last top =>
    cases before with
    | nil => exact (List.cons.inj split).2.symm
    | cons first before => simp at split
  | step up rest ih =>
    cases before with
    | nil =>
      cases (List.cons.inj split).1
      cases up
    | cons first before => exact ih (List.cons.inj split).2

end LintGate.Path
