import LintGate.Proofs.Change.Written

/-! What a reader makes of each written line outside a hunk body. The path of a target line comes
back without blanks at its end, and the counts of a hunk header as they are. -/
namespace LintGate.Diff
open Text (Line)

theorem seenAppend {l : Line} (inner : l.chars.getLast? ≠ some '\r') (m : Line) :
    (l ++ m).seen = l.chars ++ m.seen :=
  Text.dropReturnAppend inner m.chars

section HeaderLines

theorem ofLineUnmarked {cs : List Char} (unmarked : ∀ mark ∈ marks, ¬ mark <+: cs) :
    Header.ofLine cs = .other := by
  have absent : ∀ mark ∈ marks, Text.after? mark cs = none :=
    fun mark known => Text.afterNone.mpr (unmarked mark known)
  have unstarted : ∀ mark ∈ marks, Text.startsWith mark cs = false := by
    intro mark known
    rw [Text.startsWith, absent mark known, Option.isSome_none]
  unfold Header.ofLine
  rw [absent "diff --git ".toList (by decide), absent "rename to ".toList (by decide),
    unstarted "deleted file mode".toList (by decide), absent "+++ ".toList (by decide),
    unstarted "@@".toList (by decide)]
  rfl

theorem extendedSeen (e : ExtendedLine) : Header.ofLine e.line.seen = .other :=
  ofLineUnmarked (fun mark known inside =>
    e.unmarked mark known (inside.trans (Text.dropReturnStart e.line.chars)))

theorem sectionSeen (old new : Line) :
    Header.ofLine (sectionLine old new).seen =
      .section (headerPath? ("a/".toList ++ old.chars ++ " b/".toList ++ new.seen)) := by
  have marked : ∀ rest,
      Header.ofLine ("diff --git ".toList ++ rest) = .section (headerPath? rest) := fun _ => rfl
  have inner : ("a/".toList ++ old.chars ++ " b/".toList).getLast? ≠ some '\r' := by
    rw [List.getLast?_append_of_ne_nil _ (by decide)]
    decide
  rw [sectionLine, seenAppend (by decide), marked, seenAppend inner]
  rfl

theorem renameSeen (new : Line) :
    Header.ofLine ((⟨"rename to ".toList, by decide⟩ ++ new : Line).seen) =
      .renamed (Text.trim new.seen) := by
  rw [seenAppend (by decide)]
  rfl

theorem deletedSeen (mode : Line) :
    Header.ofLine ((⟨"deleted file mode".toList, by decide⟩ ++ mode : Line).seen) = .deleted := by
  rw [seenAppend (by decide)]
  rfl

theorem oldSideSeen (old stamp : Option Line) :
    Header.ofLine (oldSideLine old stamp).seen = .other := by
  have marked : ∀ rest, Header.ofLine ("--- ".toList ++ rest) = .other := fun _ => rfl
  rw [oldSideLine, seenAppend (by decide), marked]

theorem nullSideSeen :
    Header.ofLine (⟨"+++ /dev/null".toList, by decide⟩ : Line).seen = .target none := by
  decide

end HeaderLines

section Target

theorem takeWhileStop {p : Char → Bool} {c : Char} (stop : p c = false) (cs ds : List Char) :
    (cs ++ c :: ds).takeWhile p = cs.takeWhile p := by
  rw [List.takeWhile_append]
  split
  · rename_i whole
    rw [List.takeWhile_cons_of_neg (by simp [stop]), List.append_nil]
    exact ((List.takeWhile_prefix p).eq_of_length whole).symm
  · rfl

/- A carriage return at the end is taken with the line ending or trimmed: either way it goes. -/
theorem trimEndTakeReturn (cs : List Char) :
    Text.trimEnd ((Text.dropReturn cs).takeWhile (· ≠ '\t')) =
      Text.trimEnd (cs.takeWhile (· ≠ '\t')) := by
  by_cases last : cs.getLast? = some '\r'
  · obtain ⟨start, rfl⟩ := List.getLast?_eq_some_iff.mp last
    have dropped : Text.dropReturn (start ++ ['\r']) = start := by simp [Text.dropReturn]
    rw [dropped, List.takeWhile_append]
    split
    · rename_i whole
      rw [(List.takeWhile_prefix _).eq_of_length whole]
      have trimmed := Text.trimEndReturn (start ++ ['\r'])
      rwa [dropped] at trimmed
    · rfl
  · rw [Text.dropReturn, if_neg last]

theorem targetPathSide (rest : List Char) :
    targetPath? ("b/".toList ++ rest) = some (Text.trimEnd (rest.takeWhile (· ≠ '\t'))) := by
  have taken : ("b/".toList ++ rest).takeWhile (· ≠ '\t') =
      "b/".toList ++ rest.takeWhile (· ≠ '\t') := rfl
  have started : Text.trimStart ("b/".toList ++ rest.takeWhile (· ≠ '\t')) =
      "b/".toList ++ rest.takeWhile (· ≠ '\t') := rfl
  have closed : Text.trimEnd "b/".toList = "b/".toList := by decide
  rw [targetPath?, taken, Text.trim, started, Text.trimEndAppend closed]
  rfl

theorem newSideSeen (new : Line) (stamp : Option Line) :
    Header.ofLine (newSideLine new stamp).seen =
      .target (some (Text.trimEnd (new.chars.takeWhile (· ≠ '\t')))) := by
  rw [newSideLine, seenAppend (by decide), seenAppend (by decide)]
  have read : ∀ rest, Header.ofLine ("+++ ".toList ++ rest) = .target (targetPath? rest) :=
    fun _ => rfl
  rw [read, targetPathSide]
  congr 2
  cases stamp with
  | none =>
    have whole : (new ++ stampLine none).seen = Text.dropReturn new.chars :=
      congrArg Text.dropReturn (List.append_nil new.chars)
    rw [whole, trimEndTakeReturn]
  | some text =>
    have cut : (new ++ stampLine (some text)).seen = new.chars ++ '\t' :: text.seen := by
      have joined : (new ++ stampLine (some text)).chars = (new.chars ++ ['\t']) ++ text.chars := by
        simp [stampLine]
      rw [Line.seen, joined, Text.dropReturnAppend (by simp), List.append_assoc]
      rfl
    rw [cut, takeWhileStop (by decide)]

end Target

section HunkHeader

theorem numberNumeral (n : Nat) {rest : List Char}
    (stop : ∀ c, rest.head? = some c → Text.isDecimalDigit c = false) :
    number? (Text.numeral n ++ rest) = some (Text.numeral n, rest) := by
  have digits : ∀ c ∈ Text.numeral n, Text.isDecimalDigit c = true :=
    fun _ inside => Text.numeralDecimalDigit inside
  have ended : rest.takeWhile Text.isDecimalDigit = [] ∧
      rest.dropWhile Text.isDecimalDigit = rest := by
    cases rest with
    | nil => exact ⟨rfl, rfl⟩
    | cons c rest => simp [stop c rfl]
  unfold number?
  rw [List.takeWhile_append_of_pos digits, List.dropWhile_append_of_pos digits, ended.1, ended.2,
    List.append_nil]
  split
  · rename_i empty
    exact absurd empty (Text.numeralFilled n)
  · rfl

theorem countSeen (short : Bool) (n : Nat) (rest : List Char) :
    count ((countLine short n).chars ++ ' ' :: rest) = (Text.numeral n, ' ' :: rest) := by
  unfold countLine
  split
  · rename_i left
    have one : n = 1 := by simpa using (Bool.and_eq_true_iff.mp left).2
    rw [one]
    rfl
  · have found : number? (Text.numeral n ++ ' ' :: rest) = some (Text.numeral n, ' ' :: rest) :=
      numberNumeral n (fun c first => by cases first; decide)
    simp [numeralLine, count, found]

theorem countStops (short : Bool) (n : Nat) (rest : List Char) :
    ∀ c, ((countLine short n).chars ++ ' ' :: rest).head? = some c →
      Text.isDecimalDigit c = false := by
  intro c first
  unfold countLine at first
  split at first
  · cases first
    decide
  · cases first
    decide

def WrittenHunk.summary (h : WrittenHunk) : Hunk := ⟨h.oldCount, h.newStart, h.newCount⟩

theorem headerLineSeen (h : WrittenHunk) :
    h.headerLine.seen = "@@ -".toList ++ (Text.numeral h.oldStart ++
      ((countLine h.shortOld h.oldCount).chars ++ ' ' :: '+' :: (Text.numeral h.newStart ++
        ((countLine h.shortNew h.newCount).chars ++ ' ' :: '@' :: '@' :: h.heading.seen)))) := by
  have last : ∀ cs : List Char, (cs ++ " @@".toList).getLast? ≠ some '\r' := by
    intro cs
    rw [List.getLast?_append_of_ne_nil _ (by decide)]
    decide
  rw [WrittenHunk.headerLine, seenAppend (last _)]
  simp only [Line.appendChars, List.append_assoc]
  rfl

theorem hunkNumeralsSeen (h : WrittenHunk) :
    hunkNumerals? h.headerLine.seen =
      some (Text.numeral h.oldCount, Text.numeral h.newStart, Text.numeral h.newCount) := by
  have plus : ∀ rest, Text.after? " +".toList (' ' :: '+' :: rest) = some rest := fun _ => rfl
  have closing : ∀ rest, Text.after? " @@".toList (' ' :: '@' :: '@' :: rest) = some rest :=
    fun _ => rfl
  rw [headerLineSeen, hunkNumerals?, Text.afterAppend]
  simp only [Option.bind_eq_bind, Option.bind_some, numberNumeral _ (countStops _ _ _), countSeen,
    plus, closing]

theorem hunkSeen (h : WrittenHunk) : hunk? h.headerLine.seen = some h.summary := by
  have start : h.newStart < Text.limit32 := Nat.lt_of_le_of_lt (Nat.le_add_right _ _) h.newFits
  have count : h.newCount < Text.limit32 := Nat.lt_of_le_of_lt (Nat.le_add_left _ _) h.newFits
  rw [hunk?, hunkNumeralsSeen]
  simp only [Option.bind_eq_bind, Option.bind_some, Text.unsignedNumeral start,
    Text.unsignedNumeral count, Text.unsignedNumeral h.oldFits, WrittenHunk.oldCount]
  rfl

end HunkHeader

end LintGate.Diff
