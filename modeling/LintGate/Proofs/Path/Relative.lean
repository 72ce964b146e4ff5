import LintGate.Path.Basic
import LintGate.Proofs.Text.Printed

/-! Paths taken apart and put together again. The components of a path of plain names join to
the path itself, and a path whose components start with those of a base is, seen from the base,
the rest of them. How a path is spelled, with repeated slashes or dots inside, is not seen. -/
namespace LintGate.Path

structure PlainSegment (s : List Char) : Prop where
  filled : s ≠ []
  notHere : s ≠ ['.']
  notUp : s ≠ ['.', '.']
  unslashed : '\\' ∉ s

instance (s : List Char) : Decidable (PlainSegment s) :=
  decidable_of_iff (s ≠ [] ∧ s ≠ ['.'] ∧ s ≠ ['.', '.'] ∧ '\\' ∉ s)
    ⟨fun h => ⟨h.1, h.2.1, h.2.2.1, h.2.2.2⟩, fun h => ⟨h.filled, h.notHere, h.notUp, h.unslashed⟩⟩

def Plain (path : String) : Prop := ∀ s ∈ segments path.toList, PlainSegment s

instance (path : String) : Decidable (Plain path) :=
  inferInstanceAs (Decidable (∀ s ∈ segments path.toList, PlainSegment s))

theorem segmentSlashFree {cs s : List Char} (member : s ∈ segments cs) : '/' ∉ s :=
  fun inside => Bool.noConfusion (Text.piecesFree member inside : ('/' == '/') = false)

theorem segmentsShape (cs : List Char) :
    ∃ s ss, segments cs = s :: ss ∧ cs = s ++ ss.flatMap ('/' :: ·) := by
  induction cs with
  | nil => exact ⟨[], [], rfl, rfl⟩
  | cons c cs ih =>
    obtain ⟨s, ss, shape, whole⟩ := ih
    rw [segments] at shape
    rw [segments, Text.pieces, shape]
    split
    · rename_i slash
      exact ⟨[], s :: ss, rfl, by rw [beq_iff_eq.mp slash, whole]; rfl⟩
    · exact ⟨c :: s, ss, rfl, by rw [List.cons_append, ← whole]⟩

theorem relativeOfSlashFree {s : List Char} (free : '/' ∉ s) :
    isAbsolute (String.ofList s) = false := by
  cases s with
  | nil => rfl
  | cons c s => simpa [isAbsolute] using Ne.symm (List.ne_of_not_mem_cons free)

theorem joinName {base s : List Char} (unended : base.getLast? ≠ some '/') (free : '/' ∉ s) :
    join (String.ofList base) (String.ofList s) =
      String.ofList (if base = [] then s else base ++ '/' :: s) := by
  rw [join, relativeOfSlashFree free]
  cases base with
  | nil => simp
  | cons b base => simp [String.ext_iff, unended]

theorem slashFreeUnended {s : List Char} (free : '/' ∉ s) : s.getLast? ≠ some '/' :=
  fun last => free (List.mem_of_getLast? last)

theorem foldNames {ss : List (List Char)} (names : ∀ s ∈ ss, s ≠ [] ∧ '/' ∉ s) {base : List Char}
    (filled : base ≠ []) (unended : base.getLast? ≠ some '/') :
    (ss.map (fun s => Component.name (String.ofList s))).foldl (fun path c => join path c.text)
      (String.ofList base) = String.ofList (base ++ ss.flatMap ('/' :: ·)) := by
  induction ss generalizing base with
  | nil => simp
  | cons s ss ih =>
    obtain ⟨⟨named, free⟩, later⟩ := List.forall_mem_cons.mp names
    have last : (base ++ '/' :: s).getLast? ≠ some '/' := by
      rw [List.append_cons, List.getLast?_append_of_ne_nil _ named]
      exact slashFreeUnended free
    rw [List.map_cons, List.foldl_cons, Component.text, joinName unended free, if_neg filled,
      ih later (List.append_ne_nil_of_left_ne_nil filled _) last, List.flatMap_cons,
      List.append_assoc]

theorem ofComponentsNames {cs : List Char} (filled : ∀ s ∈ segments cs, s ≠ []) :
    ofComponents ((segments cs).map (fun s => .name (String.ofList s))) = String.ofList cs := by
  have names : ∀ s ∈ segments cs, s ≠ [] ∧ '/' ∉ s :=
    fun s member => ⟨filled s member, segmentSlashFree member⟩
  obtain ⟨s, ss, shape, whole⟩ := segmentsShape cs
  rw [shape] at names ⊢
  obtain ⟨⟨named, free⟩, later⟩ := List.forall_mem_cons.mp names
  have first : join "" (String.ofList s) = String.ofList s :=
    @joinName [] s (by simp) free
  rw [ofComponents, List.map_cons, List.foldl_cons, Component.text, first,
    foldNames later named (slashFreeUnended free), ← whole]

theorem ofSegmentPlain {s : List Char} (plain : PlainSegment s) :
    Component.ofSegment? s = some (.name (String.ofList s)) := by
  simp [Component.ofSegment?, isIdle, plain.filled, plain.notHere, plain.notUp]

theorem absoluteSegments {path : String} (absolute : isAbsolute path = true) :
    ∃ rest, segments path.toList = [] :: segments rest := by
  obtain ⟨rest, chars⟩ := List.head?_eq_some_iff.mp (beq_iff_eq.mp absolute)
  exact ⟨rest, by rw [chars]; rfl⟩

theorem componentsAbsolute {path : String} (absolute : isAbsolute path = true) :
    components path = .root :: (segments path.toList).filterMap Component.ofSegment? := by
  obtain ⟨rest, split⟩ := absoluteSegments absolute
  rw [components, split, absolute]
  rfl

section
variable {key : String} (plain : Plain key)
include plain

theorem plainUnslashed : '\\' ∉ key.toList := by
  intro inside
  obtain ⟨s, ss, shape, whole⟩ := segmentsShape key.toList
  rw [whole, List.mem_append, List.mem_flatMap] at inside
  rw [Plain, shape] at plain
  rcases inside with first | ⟨t, member, later⟩
  · exact (plain s List.mem_cons_self).unslashed first
  · exact (plain t (List.mem_cons_of_mem s member)).unslashed
      ((List.mem_cons.mp later).resolve_left (by decide))

theorem plainRelative : isAbsolute key = false := by
  refine Bool.eq_false_iff.mpr (fun absolute => ?_)
  obtain ⟨rest, split⟩ := absoluteSegments absolute
  exact (plain [] (split ▸ List.mem_cons_self)).filled rfl

theorem plainUndotted : Text.startsWith ['.', '/'] key.toList = false := by
  refine Bool.eq_false_iff.mpr (fun dotted => ?_)
  obtain ⟨rest, chars⟩ := Text.startsWithIff.mp dotted
  have split : segments key.toList = ['.'] :: segments rest := by rw [← chars]; rfl
  exact (plain ['.'] (split ▸ List.mem_cons_self)).notHere rfl

theorem plainNamed : (segments key.toList).filterMap Component.ofSegment? =
    (segments key.toList).map (fun s => .name (String.ofList s)) := by
  rw [← List.filterMap_eq_map]
  exact List.filterMap_congr (fun s member => ofSegmentPlain (plain s member))

theorem componentsPlain :
    components key = (segments key.toList).map (fun s => .name (String.ofList s)) := by
  rw [components, plainRelative plain]
  split
  · rename_i rest shape
    exact absurd rfl (plain ['.'] (shape ▸ List.mem_cons_self)).notHere
  · exact plainNamed plain

theorem ofComponentsPlain : ofComponents (components key) = key := by
  rw [componentsPlain plain, ofComponentsNames (fun s member => (plain s member).filled),
    String.ofList_toList]

end

/- Equal components are skipped as long as nothing has been put out, so a base that heads the
path is gone through to its end, steps up included. -/
theorem climbPast (base rest : List Component) : climb [] (base ++ rest) base = some rest := by
  induction base with
  | nil => cases rest <;> rfl
  | cons b base ih => simpa [climb] using ih

theorem relativeBelow {path base key : String} (based : isAbsolute path = isAbsolute base)
    (plain : Plain key) (below : components path = components base ++ components key) :
    relative? path base = some key := by
  rw [relative?, if_pos based, below, climbPast, Option.map_some, ofComponentsPlain plain]

theorem componentsSpaced {path base key : String} (absolute : isAbsolute path = true)
    (based : isAbsolute base = true) (plain : Plain key)
    (same : (segments path.toList).filter (fun s => !isIdle s) =
      (segments base.toList).filter (fun s => !isIdle s) ++ segments key.toList) :
    components path = components base ++ components key := by
  have busy (ss : List (List Char)) : ss.filterMap Component.ofSegment? =
      (ss.filter (fun s => !isIdle s)).filterMap Component.ofSegment? := by
    rw [List.filterMap_filter]
    refine List.filterMap_congr (fun s _ => ?_)
    cases idle : isIdle s <;> simp [Component.ofSegment?, idle]
  rw [componentsAbsolute absolute, componentsAbsolute based, busy, same, List.filterMap_append,
    ← busy, List.cons_append, componentsPlain plain, plainNamed plain]

end LintGate.Path
