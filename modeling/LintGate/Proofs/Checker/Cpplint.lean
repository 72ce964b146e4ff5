import LintGate.Checker.Cpplint
import LintGate.Proofs.Text.Interleaved
import LintGate.Proofs.Text.Numeral
import LintGate.Proofs.Text.Words

/-! What is read off cpplint's lines. A record is read whatever the blanks between its words and
whatever lines stand around it; a line is skipped exactly when it lacks words, when its first word
is no place, or when the number in the place is none. -/
namespace LintGate.Cpplint
open Text (Word)

structure Record where
  file : Word
  line : Nat
  description : List Word
  category : Word
  confidence : Word
  fileFree : ':' ∉ file.chars
  lineFits : line < Text.limit32
  described : description ≠ []

namespace Record

def place (r : Record) : Word where
  chars := r.file.chars ++ ':' :: (Text.numeral r.line ++ [':'])
  filled := by simp
  solid := by
    intro c inside
    simp only [List.mem_append, List.mem_cons, List.not_mem_nil, or_false] at inside
    rcases inside with inFile | rfl | inLine | rfl
    · exact r.file.solid c inFile
    · rfl
    · exact Text.numeralSolid inLine
    · rfl

def words (r : Record) : List Word := r.place :: (r.description ++ [r.category, r.confidence])

/- The confidence and the category come first in the text, and a finding about line 0 is one about
the whole file. -/
def finding (r : Record) : Finding where
  file := String.ofList r.file.chars
  line := if r.line = 0 then none else some r.line
  column := none
  text := " ".intercalate
    ((r.confidence :: r.category :: r.description).map (fun w => String.ofList w.chars))

def Writes (r : Record) (line : List Char) : Prop := Text.Spaced r.words line

end Record

inductive Skipped (line : List Char) : Prop where
  | blank (blanks : Text.Blanks line)
  | fewWords (few : (Text.words line).length < 4)
  | otherColons {place : List Char} {rest : List (List Char)}
      (words : Text.words line = place :: rest) (colons : place.count ':' ≠ 2)
  | unnamed {place : List Char} {rest : List (List Char)}
      (words : Text.words line = (':' :: place) :: rest)
  | unnumbered {file number behind : List Char} {rest : List (List Char)}
      (words : Text.words line = (file ++ ':' :: (number ++ ':' :: behind)) :: rest)
      (fileFree : ':' ∉ file) (numberFree : ':' ∉ number)
      (bad : ¬ ∃ n, Text.Decimal number n ∧ n < Text.limit32)

theorem rowNone {number : List Char} :
    row? number = none ↔ ¬ ∃ n, Text.Decimal number n ∧ n < Text.limit32 := by
  rw [row?, Option.map_eq_none_iff, Option.eq_none_iff_forall_ne_some, not_exists]
  simp only [ne_eq, Text.unsignedSome]

theorem rowNumeral {n : Nat} (fits : n < Text.limit32) :
    row? (Text.numeral n) = some (if n = 0 then none else some n) := by
  rw [row?, Text.unsignedNumeral fits, Option.map_some]

theorem placePieces {file number behind : List Char} (fileFree : ':' ∉ file)
    (numberFree : ':' ∉ number) (behindFree : ':' ∉ behind) :
    Text.pieces (· == ':') (file ++ ':' :: (number ++ ':' :: behind)) = [file, number, behind] := by
  rw [Text.piecesAppend rfl, Text.piecesAppend rfl, Text.piecesAbsent fileFree,
    Text.piecesAbsent numberFree, Text.piecesAbsent behindFree]
  rfl

theorem placeOfColons {place : List Char} (two : place.count ':' = 2) :
    ∃ file number behind, place = file ++ ':' :: (number ++ ':' :: behind) ∧
      ':' ∉ file ∧ ':' ∉ number ∧ ':' ∉ behind := by
  obtain ⟨file, behindFile, rfl, fileFree, first⟩ :=
    Text.firstSeparator (by omega : 0 < place.count ':')
  obtain ⟨number, behind, rfl, numberFree, second⟩ :=
    Text.firstSeparator (by omega : 0 < behindFile.count ':')
  have behindFree : ':' ∉ behind := List.count_eq_zero.mp (by omega)
  exact ⟨file, number, behind, rfl, fileFree, numberFree, behindFree⟩

theorem recordPlaced {file number behind category confidence : List Char}
    {description : List (List Char)} (fileFree : ':' ∉ file) (numberFree : ':' ∉ number)
    (behindFree : ':' ∉ behind) (described : description ≠ []) :
    recordOfWords? ((file ++ ':' :: (number ++ ':' :: behind)) ::
        (description ++ [category, confidence])) =
      if file = [] then none
      else (row? number).map (fun row => ⟨String.ofList file, row, none,
        " ".intercalate ((confidence :: category :: description).map String.ofList)⟩) := by
  have backwards : (description ++ [category, confidence]).reverse =
      confidence :: category :: description.reverse := by simp
  simp only [recordOfWords?, placePieces fileFree numberFree behindFree, backwards,
    Text.joinIntercalate]
  by_cases unnamed : file = []
  · simp [unnamed]
  · cases row? number with
    | none => simp [unnamed, described]
    | some row => simp [unnamed, described]

theorem recordFewWords {place : List Char} {rest : List (List Char)} (few : rest.length < 3) :
    recordOfWords? (place :: rest) = none := by
  rw [recordOfWords?]
  split
  · match rest, few with
    | [], _ => rfl
    | [_], _ => rfl
    | [_, _], _ => simp
  · rfl

theorem recordOtherColons {place : List Char} (colons : place.count ':' ≠ 2)
    (rest : List (List Char)) : recordOfWords? (place :: rest) = none := by
  have length := Text.piecesLength ':' place
  rw [recordOfWords?]
  split
  · rename_i cut
    rw [cut] at length
    exact absurd (Nat.succ.inj length).symm colons
  · rfl

theorem restShape {rest : List (List Char)} (enough : 3 ≤ rest.length) :
    ∃ description category confidence,
      rest = description ++ [category, confidence] ∧ description ≠ [] := by
  obtain ⟨front, confidence, rfl⟩ := List.eq_nil_or_concat rest |>.resolve_left (by grind)
  obtain ⟨description, category, rfl⟩ := List.eq_nil_or_concat front |>.resolve_left (by grind)
  refine ⟨description, category, confidence, by simp, ?_⟩
  rintro rfl
  simp at enough

/- A word is missing, or the first word is cut otherwise than a place, or there is a place with
all that has to stand behind it. -/
theorem wordsCases (ws : List (List Char)) :
    ws.length < 4 ∨ (∃ place rest, ws = place :: rest ∧ place.count ':' ≠ 2) ∨
      ∃ file number behind description category confidence,
        ws = (file ++ ':' :: (number ++ ':' :: behind)) :: (description ++ [category, confidence]) ∧
          ':' ∉ file ∧ ':' ∉ number ∧ ':' ∉ behind ∧ description ≠ [] := by
  by_cases few : ws.length < 4
  · exact .inl few
  · cases ws with
    | nil => exact absurd (by decide) few
    | cons place rest =>
      by_cases two : place.count ':' = 2
      · obtain ⟨file, number, behind, rfl, fileFree, numberFree, behindFree⟩ := placeOfColons two
        obtain ⟨description, category, confidence, rfl, described⟩ :=
          restShape (by simpa using few : 3 ≤ rest.length)
        exact .inr (.inr ⟨file, number, behind, description, category, confidence, rfl, fileFree,
          numberFree, behindFree, described⟩)
      · exact .inr (.inl ⟨place, rest, rfl, two⟩)

theorem fewWordsRead {ws : List (List Char)} (few : ws.length < 4) : recordOfWords? ws = none := by
  cases ws with
  | nil => rfl
  | cons place rest => exact recordFewWords (Nat.lt_of_succ_lt_succ few)

theorem skippedRead {line : List Char} (skipped : Skipped line) : record? line = none := by
  rw [record?]
  obtain few | ⟨place, rest, words, colons⟩ | ⟨file, number, behind, description, category,
    confidence, words, fileFree, numberFree, behindFree, described⟩ := wordsCases (Text.words line)
  · exact fewWordsRead few
  · rw [words]
    exact recordOtherColons colons rest
  · rw [words, recordPlaced fileFree numberFree behindFree described]
    -- the line has the form of a record, so only the name or the number can be at fault
    cases skipped with
    | blank blanks => simp [Text.wordsBlanks blanks] at words
    | fewWords few =>
      have filled := List.length_pos_iff.mpr described
      rw [words, List.length_cons, List.length_append] at few
      simp only [List.length_cons, List.length_nil] at few
      omega
    | otherColons other colons =>
      rw [words] at other
      obtain ⟨rfl, -⟩ := List.cons.inj other
      simp [List.count_eq_zero_of_not_mem, fileFree, numberFree, behindFree] at colons
    | unnamed other =>
      rw [words] at other
      have start := Text.cutUnique fileFree List.not_mem_nil (List.cons.inj other).1
      exact if_pos start.1
    | unnumbered other otherFree otherNumberFree bad =>
      rw [words] at other
      obtain ⟨rfl, behindFile⟩ := Text.cutUnique fileFree otherFree (List.cons.inj other).1
      obtain ⟨rfl, -⟩ := Text.cutUnique numberFree otherNumberFree behindFile
      rw [rowNone.mpr bad, Option.map_none, ite_self]

theorem readSkipped {line : List Char} (unread : record? line = none) : Skipped line := by
  rw [record?] at unread
  obtain few | ⟨place, rest, words, colons⟩ | ⟨file, number, behind, description, category,
    confidence, words, fileFree, numberFree, behindFree, described⟩ := wordsCases (Text.words line)
  · exact .fewWords few
  · exact .otherColons words colons
  · rw [words, recordPlaced fileFree numberFree behindFree described] at unread
    split at unread
    · rename_i empty
      subst empty
      exact .unnamed words
    · exact .unnumbered words fileFree numberFree (rowNone.mp (Option.map_eq_none_iff.mp unread))

theorem writesRead {r : Record} {line : List Char} (writes : r.Writes line) :
    record? line = some r.finding := by
  have words : Text.words line = (r.file.chars ++ ':' :: (Text.numeral r.line ++ ':' :: [])) ::
      (r.description.map Word.chars ++ [r.category.chars, r.confidence.chars]) := by
    rw [Text.wordsSpaced writes]
    simp [Record.words, Record.place]
  have described : r.description.map Word.chars ≠ [] := by
    simpa using r.described
  rw [record?, words, recordPlaced r.fileFree (Text.numeralFree rfl r.line) List.not_mem_nil
    described, if_neg r.file.filled, rowNumeral r.lineFits]
  simp [Record.finding, Function.comp_def]

theorem recordReturn (line : List Char) : record? (line ++ ['\r']) = record? line := by
  rw [record?, Text.wordsBreak rfl]
  simp [record?, Text.words, Text.pieces]

theorem recordsDecoded :
    (∀ line, record? line = none ↔ Skipped line) ∧
      ∀ ls rs, Text.Interleaved Record.Writes Skipped ls rs →
        records (String.ofList (Text.joined ls)) = rs.map Record.finding := by
  refine ⟨fun line => ⟨readSkipped, skippedRead⟩, fun ls rs interleaved => ?_⟩
  rw [records, String.toList_ofList]
  exact Text.readInterleaved recordReturn rfl interleaved writesRead skippedRead

def noWord : Word := ⟨"No".toList, by decide, by decide⟩

def copyrightWord : Word := ⟨"copyright".toList, by decide, by decide⟩

def noCopyright : Record where
  file := ⟨"a.h".toList, by decide, by decide⟩
  line := 0
  description := [noWord, copyrightWord]
  category := ⟨"[legal]".toList, by decide, by decide⟩
  confidence := ⟨"[5]".toList, by decide, by decide⟩
  fileFree := by decide
  lineFits := by decide
  described := List.cons_ne_nil _ _

def noCopyrightLine : List Char := "a.h:0:\tNo  copyright  [legal] [5]".toList

theorem noCopyrightWrites : noCopyright.Writes noCopyrightLine := by
  have whole : noCopyrightLine = noCopyright.place.chars ++ (['\t'] ++ (noWord.chars ++
      ([' ', ' '] ++ (copyrightWord.chars ++ ([' ', ' '] ++ (noCopyright.category.chars ++
        ([' '] ++ noCopyright.confidence.chars))))))) := by decide +kernel
  rw [whole]
  exact .next noCopyright.place ['\t'] (by decide) (by decide) <|
    .next noWord [' ', ' '] (by decide) (by decide) <|
      .next copyrightWord [' ', ' '] (by decide) (by decide) <|
        .next noCopyright.category [' '] (by decide) (by decide) (.last noCopyright.confidence)

theorem statusLineSkipped :
    Skipped "Done processing a.h".toList ∧
      records "a.h:0:\tNo  copyright  [legal] [5]\nDone processing a.h\n" =
        [⟨"a.h", none, none, "[5] [legal] No copyright"⟩] := by
  have skipped : Skipped "Done processing a.h".toList := (recordsDecoded.1 _).mp (by decide +kernel)
  refine ⟨skipped, ?_⟩
  exact recordsDecoded.2
    [⟨noCopyrightLine, by decide +kernel⟩, ⟨"Done processing a.h".toList, by decide⟩,
      ⟨[], by decide⟩]
    [noCopyright]
    (.record noCopyrightWrites (.noise skipped (.noise (.blank (by decide)) .done)))

end LintGate.Cpplint
