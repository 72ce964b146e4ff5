import LintGate.Proofs.Text.Printed

/-! Output of a tool as a list of lines, records among lines that are no records. The lines are
joined by line feeds, so that an output ends in a line feed when its last line is empty. A reader
that takes a line at a time, and does not mind a carriage return behind it, returns the records. -/
namespace LintGate.Text

def joined : List Line → List Char
  | [] => []
  | [l] => l.chars
  | l :: next :: ls => l.chars ++ '\n' :: joined (next :: ls)

/- The lines `ls` hold the records `as` in their order, one on a line, and noise on all others. -/
inductive Interleaved {α : Type} (Writes : α → List Char → Prop) (Noise : List Char → Prop) :
    List Line → List α → Prop where
  | done : Interleaved Writes Noise [] []
  | record {a l ls as} (writes : Writes a l.chars) (rest : Interleaved Writes Noise ls as) :
      Interleaved Writes Noise (l :: ls) (a :: as)
  | noise {l ls as} (noise : Noise l.chars) (rest : Interleaved Writes Noise ls as) :
      Interleaved Writes Noise (l :: ls) as

theorem piecesJoined {ls : List Line} (filled : ls ≠ []) :
    pieces (· == '\n') (joined ls) = ls.map Line.chars := by
  induction ls with
  | nil => exact absurd rfl filled
  | cons l ls ih =>
    cases ls with
    | nil => exact piecesClosed l.closed
    | cons next ls =>
      rw [joined, piecesAppend rfl, piecesClosed l.closed, ih (List.cons_ne_nil next ls)]
      rfl

section
variable {β : Type} {read : List Char → Option β}
  (unreturned : ∀ cs, read (cs ++ ['\r']) = read cs) (empty : read [] = none)
include unreturned

theorem readUnreturned (cs : List Char) : read (dropReturn cs) = read cs := by
  unfold dropReturn
  split
  · rename_i last
    obtain ⟨start, rfl⟩ := List.getLast?_eq_some_iff.mp last
    rw [List.dropLast_concat, unreturned]
  · rfl

include empty

theorem readClosed (ps : List (List Char)) :
    (closeLines ps).filterMap read = ps.filterMap read := by
  induction ps with
  | nil => rfl
  | cons p ps ih =>
    cases ps with
    | nil =>
      cases p with
      | nil => simp [closeLines, empty]
      | cons c p => rfl
    | cons q ps =>
      rw [closeLines, List.filterMap_cons, List.filterMap_cons, readUnreturned unreturned, ih]
      exact List.cons_ne_nil q ps

theorem readJoined (ls : List Line) :
    (lines (joined ls)).filterMap read = ls.filterMap (fun l => read l.chars) := by
  cases ls with
  | nil => rfl
  | cons l ls =>
    rw [lines, readClosed unreturned empty, piecesJoined (List.cons_ne_nil l ls),
      List.filterMap_map]
    rfl

theorem readInterleaved {α : Type} {Writes : α → List Char → Prop} {Noise : List Char → Prop}
    {view : α → β} {ls : List Line} {as : List α} (interleaved : Interleaved Writes Noise ls as)
    (reads : ∀ {a cs}, Writes a cs → read cs = some (view a))
    (skips : ∀ {cs}, Noise cs → read cs = none) :
    (lines (joined ls)).filterMap read = as.map view := by
  rw [readJoined unreturned empty]
  induction interleaved with
  | done => rfl
  | record writes rest ih => rw [List.filterMap_cons, reads writes, ih, List.map_cons]
  | noise noise rest ih => rw [List.filterMap_cons, skips noise, ih]

end

end LintGate.Text
