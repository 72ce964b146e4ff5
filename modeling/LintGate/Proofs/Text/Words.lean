import LintGate.Proofs.Text.Trimmed

/-! The words of a line: those that were written into it, however wide the blanks between them. -/
namespace LintGate.Text

structure Word where
  chars : List Char
  filled : chars ≠ []
  solid : Solid chars

inductive Spaced : List Word → List Char → Prop where
  | last (w : Word) : Spaced [w] w.chars
  | next (w : Word) (gap : List Char) {ws : List Word} {cs : List Char} (filled : gap ≠ [])
      (blanks : Blanks gap) (rest : Spaced ws cs) : Spaced (w :: ws) (w.chars ++ (gap ++ cs))

theorem wordsBreak {c : Char} (blank : isBlank c = true) (cs rest : List Char) :
    words (cs ++ c :: rest) = words cs ++ words rest := by
  rw [words, piecesAppend blank, List.filter_append]
  rfl

theorem wordsBefore {gap : List Char} (blanks : Blanks gap) (cs : List Char) :
    words (gap ++ cs) = words cs := by
  induction gap with
  | nil => rfl
  | cons c gap ih =>
    have later := ih (fun d inside => blanks d (List.mem_cons_of_mem c inside))
    rw [List.cons_append, ← List.nil_append (c :: (gap ++ cs)),
      wordsBreak (blanks c List.mem_cons_self), later]
    rfl

theorem wordsBlanks {gap : List Char} (blanks : Blanks gap) : words gap = [] := by
  have before := wordsBefore blanks []
  rwa [List.append_nil] at before

theorem wordsWord (w : Word) : words w.chars = [w.chars] := by
  rw [words, piecesWhole w.solid]
  simp [w.filled]

theorem wordsSpaced {ws : List Word} {cs : List Char} (spaced : Spaced ws cs) :
    words cs = ws.map Word.chars := by
  induction spaced with
  | last w => exact wordsWord w
  | next w gap filled blanks rest ih =>
    obtain ⟨c, gap, rfl⟩ := List.exists_cons_of_ne_nil filled
    rw [List.cons_append, wordsBreak (blanks c List.mem_cons_self), wordsWord,
      wordsBefore (fun d inside => blanks d (List.mem_cons_of_mem c inside)), ih]
    rfl

theorem joinIntercalate (separator : String) (texts : List String) :
    join separator texts = separator.intercalate texts := by
  induction texts with
  | nil => rfl
  | cons s texts ih =>
    cases texts with
    | nil => rw [join, String.intercalate_singleton]
    | cons t texts => rw [join, String.intercalate_cons_cons, ih]

end LintGate.Text
