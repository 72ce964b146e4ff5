import LintGate.Text.Cut
import LintGate.Text.Lines
import Mathlib.Data.List.DropRight

/-! A text printed line by line, and what reading it gives back: the same lines, less a carriage
return at the end of a line. A text that ends in a line feed is read apart from what follows it.
Also how a text is cut at a mark that was printed into it. -/
namespace LintGate.Text

structure Line where
  chars : List Char
  closed : '\n' ∉ chars
deriving DecidableEq, Repr

namespace Line

def empty : Line := ⟨[], List.not_mem_nil⟩

def append (l : Line) (m : Line) : Line := ⟨l.chars ++ m.chars, by simp [l.closed, m.closed]⟩

instance : Append Line := ⟨append⟩

@[simp] theorem appendChars (l m : Line) : (l ++ m).chars = l.chars ++ m.chars := rfl

end Line

def printed : List Line → List Char
  | [] => []
  | l :: ls => l.chars ++ '\n' :: printed ls

def Line.seen (l : Line) : List Char := dropReturn l.chars

theorem piecesFilled (isSeparator : Char → Bool) (cs : List Char) : pieces isSeparator cs ≠ [] := by
  cases cs with
  | nil => exact List.cons_ne_nil _ _
  | cons c cs =>
    unfold pieces
    split
    · exact List.cons_ne_nil _ _
    · split
      · exact List.cons_ne_nil _ _
      · exact List.cons_ne_nil _ _

theorem piecesAppend {isSeparator : Char → Bool} {c : Char} (separates : isSeparator c = true)
    (cs rest : List Char) :
    pieces isSeparator (cs ++ c :: rest) = pieces isSeparator cs ++ pieces isSeparator rest := by
  induction cs with
  | nil => simp [pieces, separates]
  | cons d cs ih =>
    rw [List.cons_append, pieces, pieces, ih]
    split
    · rfl
    · cases inner : pieces isSeparator cs with
      | nil => exact absurd inner (piecesFilled isSeparator cs)
      | cons p ps => rfl

theorem piecesPrefix {mark : List Char} (closed : '\n' ∉ mark) (cs : List Char) :
    ∃ p ps, pieces (· == '\n') cs = p :: ps ∧
      pieces (· == '\n') (mark ++ cs) = (mark ++ p) :: ps := by
  obtain ⟨p, ps, split⟩ := List.exists_cons_of_ne_nil (piecesFilled (· == '\n') cs)
  refine ⟨p, ps, split, ?_⟩
  induction mark with
  | nil => exact split
  | cons m mark ih =>
    obtain ⟨first, later⟩ := not_or.mp (fun h => closed (List.mem_cons.mpr h))
    have inner : (m == '\n') = false := beq_false_of_ne (fun same => first same.symm)
    rw [List.cons_append, pieces, inner, ih later]
    rfl

theorem piecesWhole {isSeparator : Char → Bool} {cs : List Char}
    (free : ∀ c ∈ cs, isSeparator c = false) : pieces isSeparator cs = [cs] := by
  induction cs with
  | nil => rfl
  | cons c cs ih =>
    rw [pieces, free c List.mem_cons_self,
      ih (fun d inside => free d (List.mem_cons_of_mem c inside))]
    rfl

theorem piecesAbsent {separator : Char} {cs : List Char} (absent : separator ∉ cs) :
    pieces (· == separator) cs = [cs] :=
  piecesWhole (fun _ inside => beq_false_of_ne (fun same => absent (same ▸ inside)))

theorem piecesClosed {cs : List Char} (closed : '\n' ∉ cs) : pieces (· == '\n') cs = [cs] :=
  piecesAbsent closed

theorem piecesLength (separator : Char) (cs : List Char) :
    (pieces (· == separator) cs).length = cs.count separator + 1 := by
  induction cs with
  | nil => rfl
  | cons c cs ih =>
    obtain ⟨p, ps, shape⟩ := List.exists_cons_of_ne_nil (piecesFilled (· == separator) cs)
    rw [shape] at ih
    rw [pieces, shape, List.count_cons]
    split
    · rw [List.length_cons, ih]
    · exact ih

theorem piecesFree {isSeparator : Char → Bool} {cs p : List Char}
    (member : p ∈ pieces isSeparator cs) {c : Char} (inside : c ∈ p) : isSeparator c = false := by
  induction cs generalizing p with
  | nil =>
    cases List.mem_singleton.mp member
    exact absurd inside List.not_mem_nil
  | cons d cs ih =>
    rw [pieces] at member
    split at member
    · rcases List.mem_cons.mp member with rfl | later
      · exact absurd inside List.not_mem_nil
      · exact ih later inside
    · rename_i kept
      obtain ⟨q, ps, shape⟩ := List.exists_cons_of_ne_nil (piecesFilled isSeparator cs)
      rw [shape] at member ih
      rcases List.mem_cons.mp member with rfl | later
      · rcases List.mem_cons.mp inside with rfl | inside
        · exact Bool.eq_false_iff.mpr kept
        · exact ih List.mem_cons_self inside
      · exact ih (List.mem_cons_of_mem q later) inside

theorem closeLinesAppend (ps : List (List Char)) {qs : List (List Char)} (filled : qs ≠ []) :
    closeLines (ps ++ qs) = ps.map dropReturn ++ closeLines qs := by
  induction ps with
  | nil => rfl
  | cons p ps ih =>
    obtain ⟨next, later, shape⟩ :=
      List.exists_cons_of_ne_nil (List.append_ne_nil_of_right_ne_nil ps filled)
    rw [List.cons_append, shape, closeLines, ← shape, ih]
    · rfl
    · exact List.cons_ne_nil _ _

theorem linesEnded (cs rest : List Char) :
    lines (cs ++ '\n' :: rest) = (pieces (· == '\n') cs).map dropReturn ++ lines rest := by
  rw [lines, piecesAppend rfl, closeLinesAppend _ (piecesFilled _ rest), lines]

theorem linesAppend {cs : List Char} (ended : cs = [] ∨ cs.getLast? = some '\n')
    (rest : List Char) : lines (cs ++ rest) = lines cs ++ lines rest := by
  rcases ended with rfl | last
  · rfl
  · obtain ⟨start, rfl⟩ := List.getLast?_eq_some_iff.mp last
    rw [List.append_assoc, List.singleton_append, linesEnded, linesEnded, List.append_assoc]
    rfl

theorem linesPrinted (ls : List Line) : lines (printed ls) = ls.map Line.seen := by
  induction ls with
  | nil => rfl
  | cons l ls ih =>
    rw [printed, linesEnded, piecesClosed l.closed, ih]
    rfl

theorem dropReturnAppend {cs : List Char} (inner : cs.getLast? ≠ some '\r') (ds : List Char) :
    dropReturn (cs ++ ds) = cs ++ dropReturn ds := by
  cases ds with
  | nil => simp [dropReturn, inner]
  | cons d ds =>
    unfold dropReturn
    rw [List.getLast?_append_of_ne_nil cs (List.cons_ne_nil d ds)]
    split
    · rw [List.dropLast_append_of_ne_nil (List.cons_ne_nil d ds)]
    · rfl

theorem linesStart {mark cs : List Char} (filled : mark ≠ []) (closed : '\n' ∉ mark)
    (inner : mark.getLast? ≠ some '\r') (starts : mark <+: cs) :
    ∃ rest later, lines cs = (mark ++ rest) :: later := by
  obtain ⟨tail, rfl⟩ := starts
  obtain ⟨p, ps, split, whole⟩ := piecesPrefix closed tail
  rw [lines, whole]
  cases ps with
  | nil => exact ⟨p, [], by simp [closeLines, filled]⟩
  | cons q ps =>
    rw [closeLines, dropReturnAppend inner]
    · exact ⟨dropReturn p, closeLines (q :: ps), rfl⟩
    · exact List.cons_ne_nil _ _

theorem dropReturnStart (cs : List Char) : dropReturn cs <+: cs := by
  unfold dropReturn
  split
  · exact List.dropLast_prefix cs
  · exact List.prefix_rfl

theorem closeLinesMem {ps : List (List Char)} {l : List Char} (member : l ∈ closeLines ps) :
    ∃ p ∈ ps, l <+: p := by
  induction ps with
  | nil => exact absurd member List.not_mem_nil
  | cons p ps ih =>
    cases ps with
    | nil =>
      rw [closeLines] at member
      split at member
      · exact absurd member List.not_mem_nil
      · cases List.mem_singleton.mp member
        exact ⟨l, List.mem_cons_self, List.prefix_rfl⟩
    | cons q ps =>
      rw [closeLines] at member
      · rcases List.mem_cons.mp member with rfl | later
        · exact ⟨p, List.mem_cons_self, dropReturnStart p⟩
        · obtain ⟨r, inside, start⟩ := ih later
          exact ⟨r, List.mem_cons_of_mem p inside, start⟩
      · exact List.cons_ne_nil q ps

theorem linesClosed {cs l : List Char} (member : l ∈ lines cs) : '\n' ∉ l := by
  obtain ⟨p, inside, start⟩ := closeLinesMem member
  intro feed
  cases piecesFree inside (start.subset feed)

theorem trimEndFixed {cs : List Char} :
    trimEnd cs = cs ↔ ∀ c, cs.getLast? = some c → isBlank c = false := by
  refine List.rdropWhile_eq_self_iff.trans ⟨fun h c last => ?_, fun h filled => ?_⟩
  · obtain ⟨start, rfl⟩ := List.getLast?_eq_some_iff.mp last
    simpa using h (by simp)
  · simpa using h _ (List.getLast?_eq_some_getLast filled)

theorem trimEndLast (cs : List Char) {c : Char} (last : (trimEnd cs).getLast? = some c) :
    isBlank c = false :=
  trimEndFixed.mp (List.rdropWhile_idempotent isBlank cs) c last

theorem trimEndReturn (cs : List Char) : trimEnd (dropReturn cs) = trimEnd cs := by
  unfold dropReturn
  split
  · rename_i last
    obtain ⟨start, same⟩ := List.getLast?_eq_some_iff.mp last
    rw [same, List.dropLast_concat]
    exact (List.rdropWhile_concat_pos isBlank start '\r' rfl).symm
  · rfl

theorem dropReturnTrimmed {cs : List Char} (trimmed : trimEnd cs = cs) : dropReturn cs = cs := by
  unfold dropReturn
  split
  · rename_i last
    cases trimEndFixed.mp trimmed '\r' last
  · rfl

theorem trimEndAppend {mark : List Char} (closed : trimEnd mark = mark) (rest : List Char) :
    trimEnd (mark ++ rest) = mark ++ trimEnd rest := by
  unfold trimEnd
  rw [List.reverse_append, List.dropWhile_append]
  split
  · rename_i empty
    rw [List.isEmpty_iff.mp empty, List.reverse_nil, List.append_nil]
    exact closed
  · rw [List.reverse_append, List.reverse_reverse]

theorem afterAppend (mark rest : List Char) : after? mark (mark ++ rest) = some rest := by
  induction mark with
  | nil => rfl
  | cons m mark ih => simpa [after?] using ih

theorem afterSome {mark cs rest : List Char} : after? mark cs = some rest ↔ cs = mark ++ rest := by
  constructor
  · intro h
    induction mark generalizing cs with
    | nil => exact Option.some.inj h
    | cons m mark ih =>
      cases cs with
      | nil => cases h
      | cons c cs =>
        rw [after?] at h
        split at h
        · rename_i same
          rw [same, ih h, List.cons_append]
        · cases h
  · rintro rfl
    exact afterAppend mark rest

theorem afterNone {mark cs : List Char} : after? mark cs = none ↔ ¬ mark <+: cs := by
  rw [Option.eq_none_iff_forall_ne_some]
  simp only [ne_eq, afterSome]
  exact ⟨fun h ⟨rest, same⟩ => h rest same.symm, fun h rest same => h ⟨rest, same.symm⟩⟩

theorem startsWithIff {mark cs : List Char} : startsWith mark cs = true ↔ mark <+: cs := by
  cases found : after? mark cs with
  | none => simpa [startsWith, found] using afterNone.mp found
  | some rest => simpa [startsWith, found] using ⟨rest, (afterSome.mp found).symm⟩

theorem containsIff {mark cs : List Char} : contains mark cs = true ↔ mark <:+: cs := by
  induction cs with
  | nil => simp [contains]
  | cons c cs ih => rw [contains, Bool.or_eq_true, startsWithIff, ih, List.infix_cons_iff]

theorem afterLastAbsent {mark cs : List Char} (absent : contains mark cs = false) :
    afterLast? mark cs = none := by
  induction cs with
  | nil =>
    cases mark with
    | nil => cases absent
    | cons m mark => rfl
  | cons c cs ih =>
    rw [contains, Bool.or_eq_false_iff] at absent
    rw [afterLast?, ih absent.2]
    simpa [startsWith] using absent.1

theorem afterLastBehind {mark cs rest : List Char} (found : afterLast? mark cs = some rest)
    (before : List Char) : afterLast? mark (before ++ cs) = some rest := by
  induction before with
  | nil => exact found
  | cons b before ih => rw [List.cons_append, afterLast?, ih]; rfl

/- No occurrence of a mark begins in a text without the first character of the mark. -/
theorem afterLastSkip {m : Char} {mark cs : List Char} (absent : afterLast? (m :: mark) cs = none)
    {skipped : List Char} (free : m ∉ skipped) : afterLast? (m :: mark) (skipped ++ cs) = none := by
  induction skipped with
  | nil => exact absent
  | cons s skipped ih =>
    obtain ⟨first, later⟩ := not_or.mp (fun h => free (List.mem_cons.mpr h))
    rw [List.cons_append, afterLast?, ih later]
    simp [after?, first]

theorem afterLastPrinted {m : Char} {mark rest : List Char} (once : m ∉ mark)
    (absent : contains (m :: mark) rest = false) (before : List Char) :
    afterLast? (m :: mark) (before ++ m :: mark ++ rest) = some rest := by
  rw [List.append_assoc]
  refine afterLastBehind ?_ before
  rw [List.cons_append, afterLast?, afterLastSkip (afterLastAbsent absent) once]
  exact afterAppend (m :: mark) rest

theorem lastOccurrence {mark cs : List Char} (filled : mark ≠ []) (inside : mark <:+: cs) :
    ∃ front rest, cs = front ++ mark ++ rest ∧ ¬ mark <:+: rest := by
  induction cs with
  | nil => exact absurd (List.infix_nil.mp inside) filled
  | cons c cs ih =>
    by_cases later : mark <:+: cs
    · obtain ⟨front, rest, rfl, free⟩ := ih later
      exact ⟨c :: front, rest, rfl, free⟩
    · obtain ⟨rest, whole⟩ := (List.infix_cons_iff.mp inside).resolve_right later
      refine ⟨[], rest, whole.symm, fun again => later (again.trans ?_)⟩
      -- the mark takes at least the first character, so what is behind it ends the rest
      obtain ⟨m, mark, rfl⟩ := List.exists_cons_of_ne_nil filled
      obtain ⟨-, behind⟩ := List.cons.inj whole
      exact (List.suffix_iff_eq_append.mpr (by simp [← behind])).isInfix

theorem firstSeparator {separator : Char} {cs : List Char} (present : 0 < cs.count separator) :
    ∃ left right, cs = left ++ separator :: right ∧ separator ∉ left ∧
      cs.count separator = right.count separator + 1 := by
  obtain ⟨left, right, rfl, free⟩ := List.eq_append_cons_of_mem (List.count_pos_iff.mp present)
  refine ⟨left, right, rfl, free, ?_⟩
  rw [List.count_append, List.count_eq_zero_of_not_mem free, List.count_cons_self, Nat.zero_add]

theorem cutSome {separator : Char} {cs left right : List Char} :
    cut? separator cs = some (left, right) ↔
      separator ∉ left ∧ cs = left ++ separator :: right := by
  constructor
  · intro found
    induction cs generalizing left with
    | nil => cases found
    | cons c cs ih =>
      rw [cut?] at found
      split at found
      · rename_i same
        cases found
        exact ⟨List.not_mem_nil, by rw [same]; rfl⟩
      · rename_i other
        obtain ⟨⟨start, rest⟩, inner, shape⟩ := Option.map_eq_some_iff.mp found
        cases shape
        obtain ⟨free, whole⟩ := ih inner
        exact ⟨by simp [free, Ne.symm other], by rw [whole]; rfl⟩
  · rintro ⟨free, rfl⟩
    induction left with
    | nil => simp [cut?]
    | cons d left ih =>
      obtain ⟨first, later⟩ := not_or.mp (fun h => free (List.mem_cons.mpr h))
      rw [List.cons_append, cut?, if_neg (Ne.symm first), ih later]
      rfl

theorem cutAt {separator : Char} {left : List Char} (free : separator ∉ left) (right : List Char) :
    cut? separator (left ++ separator :: right) = some (left, right) :=
  cutSome.mpr ⟨free, rfl⟩

theorem cutUnique {separator : Char} {left right left' right' : List Char} (free : separator ∉ left)
    (free' : separator ∉ left') (same : left ++ separator :: right = left' ++ separator :: right') :
    left = left' ∧ right = right' := by
  have cut := cutAt free right
  rw [same, cutAt free'] at cut
  obtain ⟨sameLeft, sameRight⟩ := Prod.mk.inj (Option.some.inj cut)
  exact ⟨sameLeft.symm, sameRight.symm⟩

theorem cutAbsent {separator : Char} {cs : List Char} (free : separator ∉ cs) :
    cut? separator cs = none := by
  refine Option.eq_none_iff_forall_ne_some.mpr ?_
  rintro ⟨left, right⟩ found
  obtain ⟨_, rfl⟩ := cutSome.mp found
  exact free (List.mem_append_right left List.mem_cons_self)

theorem cutBehind {separator : Char} {ds : List Char} (free : separator ∉ ds) (cs : List Char) :
    cut? separator (cs ++ ds) = (cut? separator cs).map (fun cut => (cut.1, cut.2 ++ ds)) := by
  induction cs with
  | nil => rw [List.nil_append, cutAbsent free]; rfl
  | cons c cs ih =>
    rw [List.cons_append, cut?, cut?]
    split
    · rfl
    · rw [ih, Option.map_map, Option.map_map]
      rfl

end LintGate.Text
