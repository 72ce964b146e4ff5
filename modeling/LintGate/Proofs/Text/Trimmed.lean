import LintGate.Proofs.Text.Printed

/-! Trimming. Blanks around a text make no difference to what is left of it, and what is left has
no blank at either end. -/
namespace LintGate.Text

def Blanks (gap : List Char) : Prop := ∀ c ∈ gap, isBlank c = true

instance (gap : List Char) : Decidable (Blanks gap) :=
  decidable_of_iff (gap.all isBlank = true) List.all_eq_true

def Solid (cs : List Char) : Prop := ∀ c ∈ cs, isBlank c = false

instance (cs : List Char) : Decidable (Solid cs) :=
  decidable_of_iff (cs.all (!isBlank ·) = true) (by simp [Solid])

theorem trimStartFixed {cs : List Char} :
    trimStart cs = cs ↔ ∀ c, cs.head? = some c → isBlank c = false := by
  cases cs with
  | nil => simp [trimStart]
  | cons c cs =>
    refine List.dropWhile_eq_self_iff.trans ⟨fun h d first => ?_, fun h filled => ?_⟩
    · cases Option.some.inj first
      exact Bool.eq_false_iff.mpr (h (Nat.zero_lt_succ _))
    · simpa using h c rfl

theorem trimFixed {cs : List Char} : trim cs = cs ↔ trimStart cs = cs ∧ trimEnd cs = cs := by
  constructor
  · intro fixed
    have start : trimStart cs <:+ cs := List.dropWhile_suffix isBlank
    have stop : trim cs <+: trimStart cs := List.rdropWhile_prefix isBlank (trimStart cs)
    have long : cs.length ≤ (trimStart cs).length := by
      have := stop.length_le
      rwa [fixed] at this
    have whole : trimStart cs = cs := start.eq_of_length (Nat.le_antisymm start.length_le long)
    exact ⟨whole, by rwa [trim, whole] at fixed⟩
  · rintro ⟨start, stop⟩
    rw [trim, start, stop]

theorem trimIdempotent (cs : List Char) : trim (trim cs) = trim cs := by
  have start : trimStart (trimStart cs) = trimStart cs := List.dropWhile_idempotent isBlank cs
  have stop : trimEnd (trim cs) = trim cs := List.rdropWhile_idempotent isBlank (trimStart cs)
  -- a text that starts with no blank starts with the same character once its end is cut
  have kept : trimStart (trim cs) = trim cs := by
    refine trimStartFixed.mpr (fun c first => trimStartFixed.mp start c ?_)
    obtain ⟨behind, whole⟩ := List.rdropWhile_prefix isBlank (trimStart cs)
    have same : trim cs ++ behind = trimStart cs := whole
    rw [← same, List.head?_append, first]
    rfl
  exact trimFixed.mpr ⟨kept, stop⟩

theorem trimSolid {cs : List Char} (solid : Solid cs) : trim cs = cs :=
  trimFixed.mpr ⟨trimStartFixed.mpr (fun c first => solid c (List.mem_of_mem_head? first)),
    trimEndFixed.mpr (fun c last => solid c (List.mem_of_getLast? last))⟩

theorem memOfTrim {c : Char} {cs : List Char} (inside : c ∈ trim cs) : c ∈ cs := by
  have left : c ∈ trimStart cs :=
    (List.rdropWhile_prefix isBlank (trimStart cs)).subset inside
  exact (List.dropWhile_suffix isBlank).subset left

theorem trimStartBlanks {gap : List Char} (blanks : Blanks gap) : trimStart gap = [] :=
  List.dropWhile_eq_nil_iff.mpr blanks

theorem trimEndBlanks {gap : List Char} (blanks : Blanks gap) (cs : List Char) :
    trimEnd (cs ++ gap) = trimEnd cs := by
  unfold trimEnd
  rw [List.reverse_append, List.dropWhile_append_of_pos]
  exact fun c inside => blanks c (List.mem_reverse.mp inside)

theorem trimEndCut (cs : List Char) : ∃ gap, cs = trimEnd cs ++ gap ∧ Blanks gap :=
  ⟨cs.rtakeWhile isBlank, List.rdropWhile_append_rtakeWhile.symm,
    fun _ inside => List.mem_rtakeWhile_imp inside⟩

theorem trimCut (cs : List Char) :
    ∃ before behind, Blanks before ∧ Blanks behind ∧ cs = before ++ (trim cs ++ behind) := by
  obtain ⟨behind, cut, blanks⟩ := trimEndCut (trimStart cs)
  refine ⟨cs.takeWhile isBlank, behind, fun _ inside => List.mem_takeWhile_imp inside, blanks, ?_⟩
  calc cs = cs.takeWhile isBlank ++ trimStart cs := List.takeWhile_append_dropWhile.symm
    _ = cs.takeWhile isBlank ++ (trim cs ++ behind) := congrArg _ cut

theorem trimBefore {gap : List Char} (blanks : Blanks gap) (cs : List Char) :
    trim (gap ++ cs) = trim cs := by
  rw [trim, trimStart, List.dropWhile_append_of_pos blanks]
  rfl

theorem trimBehind {gap : List Char} (blanks : Blanks gap) (cs : List Char) :
    trim (cs ++ gap) = trim cs := by
  rw [trim, trimStart, List.dropWhile_append]
  split
  · rename_i empty
    have left : trimStart cs = [] := List.isEmpty_iff.mp empty
    have right : gap.dropWhile isBlank = [] := trimStartBlanks blanks
    rw [right, trim, left]
  · exact trimEndBlanks blanks (trimStart cs)

theorem trimNil {cs : List Char} : trim cs = [] ↔ Blanks cs := by
  constructor
  · intro empty
    have behind : Blanks (trimStart cs) := List.rdropWhile_eq_nil_iff.mp empty
    have whole : cs = cs.takeWhile isBlank ++ trimStart cs := List.takeWhile_append_dropWhile.symm
    intro c inside
    rw [whole] at inside
    rcases List.mem_append.mp inside with before | after
    · exact List.mem_takeWhile_imp before
    · exact behind c after
  · exact fun blanks => trimBehind blanks []

end LintGate.Text
