import LintGate.Checker.ColonRecord
import LintGate.Proofs.Text.Interleaved
import LintGate.Proofs.Text.Numeral
import LintGate.Proofs.Text.Trimmed

/-! What is read off `file:line:column: text` lines. A finding that was read can be written as such
a line and is read back from it, whatever other lines stand around it. The lines that are passed
over are the malformed ones and no others. -/
namespace LintGate.ColonRecord

structure Fields (line file row column text : List Char) : Prop where
  whole : line = file ++ ':' :: (row ++ ':' :: (column ++ ':' :: text))
  fileFree : ':' ∉ file
  rowFree : ':' ∉ row
  columnFree : ':' ∉ column

structure Position (field : List Char) (n : Nat) : Prop where
  decimal : Text.Decimal (Text.trim field) n
  positive : 1 ≤ n
  fits : n < Text.limit32

inductive Malformed (line : List Char) : Prop where
  | fewFields (few : line.count ':' < 3)
  | badField {file row column text : List Char} (fields : Fields line file row column text)
      (bad : Text.trim file = [] ∨ Text.trim text = [] ∨ (¬ ∃ n, Position row n) ∨
        ¬ ∃ n, Position column n)

structure Canonical (m : Finding) : Prop where
  named : m.file ≠ ""
  fileTrimmed : Text.trimmed m.file = m.file
  fileFree : ':' ∉ m.file.toList
  fileClosed : '\n' ∉ m.file.toList
  line : ∃ n, m.line = some n ∧ 1 ≤ n ∧ n < Text.limit32
  column : ∃ n, m.column = some n ∧ 1 ≤ n ∧ n < Text.limit32
  told : m.text ≠ ""
  textTrimmed : Text.trimmed m.text = m.text
  textClosed : '\n' ∉ m.text.toList

def written (m : Finding) : String := m.location ++ ": " ++ m.text

def writtenLines : List Finding → String
  | [] => ""
  | m :: ms => written m ++ "\n" ++ writtenLines ms

def Writes (m : Finding) (line : List Char) : Prop := Canonical m ∧ line = (written m).toList

def Noise (line : List Char) : Prop := Malformed line ∨ Text.Blanks line

inductive Tells (line : List Char) : Finding → Prop where
  | fields {file row column text : List Char} {n k : Nat} (cut : Fields line file row column text)
      (atRow : Position row n) (atColumn : Position column k) (named : Text.trim file ≠ [])
      (told : Text.trim text ≠ []) :
      Tells line ⟨String.ofList (Text.trim file), some n, some k, String.ofList (Text.trim text)⟩

theorem positionSome {field : List Char} {n : Nat} :
    position? field = some n ↔ Position field n := by
  rw [position?, Option.filter_eq_some_iff, Text.unsignedSome, decide_eq_true_iff]
  constructor
  · rintro ⟨⟨decimal, fits⟩, positive⟩
    exact ⟨decimal, positive, fits⟩
  · rintro ⟨decimal, positive, fits⟩
    exact ⟨⟨decimal, fits⟩, positive⟩

theorem recordTells {line : List Char} {m : Finding} :
    colonRecord? line = some m ↔ Tells line m := by
  unfold colonRecord?
  constructor
  · intro read
    simp only [Option.bind_eq_bind, Option.bind_eq_some_iff, Prod.exists] at read
    obtain ⟨file, behindFile, first, row, behindRow, second, column, text, third, n, atRow, k,
      atColumn, built⟩ := read
    obtain ⟨fileFree, rfl⟩ := Text.cutSome.mp first
    obtain ⟨rowFree, rfl⟩ := Text.cutSome.mp second
    obtain ⟨columnFree, rfl⟩ := Text.cutSome.mp third
    split at built
    · cases built
    · rename_i filled
      obtain ⟨named, told⟩ := not_or.mp filled
      cases built
      refine .fields ⟨rfl, fileFree, rowFree, columnFree⟩ (positionSome.mp atRow)
        (positionSome.mp atColumn) ?_ ?_
      · simpa using named
      · simpa using told
  · rintro ⟨⟨rfl, fileFree, rowFree, columnFree⟩, atRow, atColumn, named, told⟩
    simp [Text.cutAt fileFree, Text.cutAt rowFree, Text.cutAt columnFree, positionSome.mpr atRow,
      positionSome.mpr atColumn, named, told]

theorem fieldsUnique {line file row column text file' row' column' text' : List Char}
    (cut : Fields line file row column text) (other : Fields line file' row' column' text') :
    file = file' ∧ row = row' ∧ column = column' ∧ text = text' := by
  obtain ⟨sameFile, behindFile⟩ :=
    Text.cutUnique cut.fileFree other.fileFree (cut.whole.symm.trans other.whole)
  obtain ⟨sameRow, behindRow⟩ := Text.cutUnique cut.rowFree other.rowFree behindFile
  obtain ⟨sameColumn, sameText⟩ := Text.cutUnique cut.columnFree other.columnFree behindRow
  exact ⟨sameFile, sameRow, sameColumn, sameText⟩

theorem fieldsOfColons {line : List Char} (enough : 3 ≤ line.count ':') :
    ∃ file row column text, Fields line file row column text := by
  obtain ⟨file, behindFile, rfl, fileFree, first⟩ :=
    Text.firstSeparator (by omega : 0 < line.count ':')
  obtain ⟨row, behindRow, rfl, rowFree, second⟩ :=
    Text.firstSeparator (by omega : 0 < behindFile.count ':')
  obtain ⟨column, text, rfl, columnFree, -⟩ :=
    Text.firstSeparator (by omega : 0 < behindRow.count ':')
  exact ⟨file, row, column, text, rfl, fileFree, rowFree, columnFree⟩

theorem malformedSilent {line : List Char} (malformed : Malformed line) (m : Finding) :
    ¬ Tells line m := by
  rintro ⟨cut, atRow, atColumn, named, told⟩
  cases malformed with
  | fewFields few =>
    rw [cut.whole] at few
    simp only [List.count_append, List.count_cons_self] at few
    omega
  | badField other bad =>
    obtain ⟨rfl, rfl, rfl, rfl⟩ := fieldsUnique cut other
    rcases bad with unnamed | untold | noRow | noColumn
    · exact named unnamed
    · exact told untold
    · exact noRow ⟨_, atRow⟩
    · exact noColumn ⟨_, atColumn⟩

theorem silentMalformed {line : List Char} (silent : ∀ m, ¬ Tells line m) : Malformed line := by
  by_cases few : line.count ':' < 3
  · exact .fewFields few
  · obtain ⟨file, row, column, text, cut⟩ := fieldsOfColons (Nat.le_of_not_lt few)
    refine .badField cut ?_
    by_contra good
    simp only [not_or, not_not] at good
    obtain ⟨named, told, ⟨n, atRow⟩, ⟨k, atColumn⟩⟩ := good
    exact silent _ (.fields cut atRow atColumn named told)

theorem recordMalformed {line : List Char} : colonRecord? line = none ↔ Malformed line := by
  rw [Option.eq_none_iff_forall_ne_some]
  constructor
  · exact fun none => silentMalformed (fun m tells => none m (recordTells.mpr tells))
  · exact fun malformed m read => malformedSilent malformed m (recordTells.mp read)

theorem blankMalformed {line : List Char} (blanks : Text.Blanks line) : Malformed line := by
  refine .fewFields ?_
  have free : ':' ∉ line := fun colon => absurd (blanks ':' colon) (by decide)
  simp [List.count_eq_zero_of_not_mem free]

theorem ofTrimFilled {cs : List Char} (filled : Text.trim cs ≠ []) :
    String.ofList (Text.trim cs) ≠ "" := by
  intro empty
  exact filled (by simpa using congrArg String.toList empty)

theorem ofTrimTrimmed (cs : List Char) :
    Text.trimmed (String.ofList (Text.trim cs)) = String.ofList (Text.trim cs) := by
  rw [Text.trimmed, String.toList_ofList, Text.trimIdempotent]

theorem ofTrimFree {c : Char} {cs : List Char} (free : c ∉ cs) :
    c ∉ (String.ofList (Text.trim cs)).toList := by
  rw [String.toList_ofList]
  exact fun inside => free (Text.memOfTrim inside)

theorem tellsCanonical {line : List Char} {m : Finding} (closed : '\n' ∉ line)
    (tells : Tells line m) : Canonical m := by
  obtain ⟨cut, atRow, atColumn, named, told⟩ := tells
  rename_i file row column text n k
  have fileClosed : '\n' ∉ file := by
    intro feed
    exact closed (cut.whole ▸ List.mem_append_left _ feed)
  have textClosed : '\n' ∉ text := by
    intro feed
    exact closed (cut.whole ▸ by simp [feed])
  exact {
    named := ofTrimFilled named
    fileTrimmed := ofTrimTrimmed file
    fileFree := ofTrimFree cut.fileFree
    fileClosed := ofTrimFree fileClosed
    line := ⟨n, rfl, atRow.positive, atRow.fits⟩
    column := ⟨k, rfl, atColumn.positive, atColumn.fits⟩
    told := ofTrimFilled told
    textTrimmed := ofTrimTrimmed text
    textClosed := ofTrimFree textClosed }

theorem writtenPlaced {m : Finding} {n k : Nat} (atLine : m.line = some n)
    (atColumn : m.column = some k) :
    (written m).toList = m.file.toList ++ ':' ::
      (Text.numeral n ++ ':' :: (Text.numeral k ++ ':' :: ' ' :: m.text.toList)) := by
  simp [written, Finding.location, atLine, atColumn, Text.numeral]

theorem numeralPosition {n : Nat} (positive : 1 ≤ n) (fits : n < Text.limit32) :
    Position (Text.numeral n) n := by
  refine ⟨?_, positive, fits⟩
  rw [Text.trimSolid (fun _ inside => Text.numeralSolid inside)]
  exact (Text.unsignedSome.mp (Text.unsignedNumeral fits)).1

theorem trimOfTrimmed {s : String} (trimmed : Text.trimmed s = s) :
    Text.trim s.toList = s.toList := by
  simpa [Text.trimmed] using congrArg String.toList trimmed

theorem canonicalTells {m : Finding} (canonical : Canonical m) : Tells (written m).toList m := by
  obtain ⟨n, atLine, linePositive, lineFits⟩ := canonical.line
  obtain ⟨k, atColumn, columnPositive, columnFits⟩ := canonical.column
  have file : Text.trim m.file.toList = m.file.toList := trimOfTrimmed canonical.fileTrimmed
  have text : Text.trim (' ' :: m.text.toList) = m.text.toList := by
    rw [← List.singleton_append, Text.trimBefore (by decide)]
    exact trimOfTrimmed canonical.textTrimmed
  have cut : Fields (written m).toList m.file.toList (Text.numeral n) (Text.numeral k)
      (' ' :: m.text.toList) :=
    ⟨writtenPlaced atLine atColumn, canonical.fileFree, Text.numeralFree rfl n,
      Text.numeralFree rfl k⟩
  have named : Text.trim m.file.toList ≠ [] := by
    rw [file]
    simpa using canonical.named
  have told : Text.trim (' ' :: m.text.toList) ≠ [] := by
    rw [text]
    simpa using canonical.told
  have tells := Tells.fields cut (numeralPosition linePositive lineFits)
    (numeralPosition columnPositive columnFits) named told
  rwa [file, text, String.ofList_toList, String.ofList_toList, ← atLine, ← atColumn] at tells

theorem recordReturn (line : List Char) : colonRecord? (line ++ ['\r']) = colonRecord? line := by
  have trim : ∀ text, Text.trim (text ++ ['\r']) = Text.trim text := Text.trimBehind (by decide)
  have cut : ∀ cs, Text.cut? ':' (cs ++ ['\r']) =
      (Text.cut? ':' cs).map (fun cut => (cut.1, cut.2 ++ ['\r'])) :=
    Text.cutBehind (by decide)
  simp only [colonRecord?, cut, trim, Option.bind_eq_bind, Option.bind_map, Function.comp_def]

theorem writesRead {m : Finding} {line : List Char} (writes : Writes m line) :
    colonRecord? line = some m := by
  obtain ⟨canonical, rfl⟩ := writes
  exact recordTells.mpr (canonicalTells canonical)

theorem noiseRead {line : List Char} (noise : Noise line) : colonRecord? line = none := by
  rcases noise with malformed | blanks
  · exact recordMalformed.mpr malformed
  · exact recordMalformed.mpr (blankMalformed blanks)

theorem recordsCanonical {output : String} {m : Finding} (member : m ∈ colonRecords output) :
    Canonical m := by
  obtain ⟨line, inside, read⟩ := List.mem_filterMap.mp member
  exact tellsCanonical (Text.linesClosed inside) (recordTells.mp read)

theorem recordsInterleaved {ls : List Text.Line} {ms : List Finding}
    (interleaved : Text.Interleaved Writes Noise ls ms) :
    colonRecords (String.ofList (Text.joined ls)) = ms := by
  rw [colonRecords, String.toList_ofList]
  have read : (Text.lines (Text.joined ls)).filterMap colonRecord? = ms.map id :=
    Text.readInterleaved recordReturn rfl interleaved writesRead noiseRead
  rw [read, List.map_id]

theorem writtenClosed {m : Finding} (canonical : Canonical m) : '\n' ∉ (written m).toList := by
  obtain ⟨n, atLine, -⟩ := canonical.line
  obtain ⟨k, atColumn, -⟩ := canonical.column
  rw [writtenPlaced atLine atColumn]
  have row := Text.numeralFree (c := '\n') rfl n
  have column := Text.numeralFree (c := '\n') rfl k
  simp [canonical.fileClosed, canonical.textClosed, row, column]

theorem recordsWritten {ms : List Finding} (canonical : ∀ m ∈ ms, Canonical m) :
    colonRecords (writtenLines ms) = ms := by
  induction ms with
  | nil => rfl
  | cons m ms ih =>
    have first := canonical m List.mem_cons_self
    have later := ih (fun other inside => canonical other (List.mem_cons_of_mem m inside))
    have whole : (writtenLines (m :: ms)).toList =
        (written m).toList ++ '\n' :: (writtenLines ms).toList := by
      simp [writtenLines]
    rw [colonRecords] at later ⊢
    rw [whole, Text.linesEnded, Text.piecesClosed (writtenClosed first), List.map_singleton,
      List.singleton_append, List.filterMap_cons, Text.readUnreturned recordReturn,
      writesRead ⟨first, rfl⟩, later]

theorem recordsExact :
    (∀ output, ∀ m ∈ colonRecords output, Canonical m) ∧
      (∀ line, colonRecord? line = none ↔ Malformed line) ∧
      (∀ ls ms, Text.Interleaved Writes Noise ls ms →
        colonRecords (String.ofList (Text.joined ls)) = ms) ∧
      ∀ output, colonRecords (writtenLines (colonRecords output)) = colonRecords output :=
  ⟨fun _ _ => recordsCanonical, fun _ => recordMalformed, fun _ _ => recordsInterleaved,
    fun _ => recordsWritten (fun _ => recordsCanonical)⟩

theorem zeroLineDropped :
    Canonical ⟨"b.py", some 7, some 8, "W1: x"⟩ ∧ Malformed "b.py:0:8: W1".toList ∧
      colonRecords "b.py:7:8: W1: x\nb.py:0:8: W1\n \t\nb.py:7:8: W1: x" =
        [⟨"b.py", some 7, some 8, "W1: x"⟩, ⟨"b.py", some 7, some 8, "W1: x"⟩] := by
  have canonical : Canonical ⟨"b.py", some 7, some 8, "W1: x"⟩ :=
    recordsExact.1 "b.py:7:8: W1: x" _ (by decide +kernel)
  have malformed : Malformed "b.py:0:8: W1".toList := (recordsExact.2.1 _).mp (by decide +kernel)
  refine ⟨canonical, malformed, ?_⟩
  exact recordsExact.2.2.1
    [⟨"b.py:7:8: W1: x".toList, by decide⟩, ⟨"b.py:0:8: W1".toList, by decide⟩,
      ⟨" \t".toList, by decide⟩, ⟨"b.py:7:8: W1: x".toList, by decide⟩] _
    (.record ⟨canonical, rfl⟩ (.noise (.inl malformed) (.noise (.inr (by decide))
      (.record ⟨canonical, rfl⟩ .done))))

end LintGate.ColonRecord
