import LintGate.Text.Blank
import LintGate.Text.Digit
import LintGate.Text.Numeral

/-! Numbers in decimal: which texts are read as numbers, and that a printed number is read back as
that number. -/
namespace LintGate.Text

def numeral (n : Nat) : List Char := Nat.toDigits 10 n

theorem numeralDigit {n : Nat} {c : Char} (h : c ∈ numeral n) : c.isDigit = true :=
  Nat.isDigit_of_mem_toDigits (by decide) (by decide) h

theorem numeralDecimalDigit {n : Nat} {c : Char} (h : c ∈ numeral n) : isDecimalDigit c = true := by
  rw [isDecimalDigit, numeralDigit h, Bool.true_or]

theorem digitSolid {c : Char} (digit : c.isDigit = true) : isBlank c = false := by
  rw [Char.isDigit, Bool.and_eq_true, decide_eq_true_iff, decide_eq_true_iff] at digit
  have low : 48 ≤ c.toNat := UInt32.le_iff_toNat_le.mp digit.1
  have high : c.toNat ≤ 57 := UInt32.le_iff_toNat_le.mp digit.2
  simp only [isBlank, Bool.or_eq_false_iff, Bool.and_eq_false_iff, decide_eq_false_iff_not,
    beq_eq_false_iff_ne]
  omega

theorem numeralSolid {n : Nat} {c : Char} (h : c ∈ numeral n) : isBlank c = false :=
  digitSolid (numeralDigit h)

theorem numeralFree {c : Char} (other : c.isDigit = false) (n : Nat) : c ∉ numeral n := by
  intro inside
  rw [numeralDigit inside] at other
  cases other

theorem numeralFilled (n : Nat) : numeral n ≠ [] := Nat.toDigits_ne_nil

theorem digitValueOfDigit {c : Char} (h : c.isDigit = true) :
    digitValue? c = some (c.toNat - '0'.toNat) := by
  rw [Char.isDigit, Bool.and_eq_true, decide_eq_true_iff, decide_eq_true_iff] at h
  exact if_pos h

theorem digitsFromRun {cs : List Char} (h : ∀ c ∈ cs, c.isDigit = true) (acc : Nat) :
    digitsFrom? acc cs = some (Nat.ofDigitChars 10 cs acc) := by
  induction cs generalizing acc with
  | nil => rfl
  | cons c cs ih =>
    rw [digitsFrom?, digitValueOfDigit (h c List.mem_cons_self), Option.bind_some,
      ih (fun d inside => h d (List.mem_cons_of_mem c inside)), Nat.ofDigitChars_cons]

theorem digitsNumeral (n : Nat) : digits? (numeral n) = some n := by
  have value : digitsFrom? 0 (numeral n) = some (Nat.ofDigitChars 10 (numeral n) 0) :=
    digitsFromRun (fun _ inside => numeralDigit inside) 0
  rw [numeral, Nat.ofDigitChars_ten_toDigits] at value
  cases run : numeral n with
  | nil => exact absurd run (numeralFilled n)
  | cons c cs => rw [digits?, ← run, numeral, value]

theorem unsignedNumeral {n limit : Nat} (fits : n < limit) :
    unsigned? limit (numeral n) = some n := by
  unfold unsigned?
  split
  · rename_i rest signed
    have sign : '+' ∈ numeral n := by rw [signed]; exact List.mem_cons_self
    exact absurd (numeralDigit sign) (by decide)
  · simp [digitsNumeral, fits]

structure Digits (cs : List Char) (n : Nat) : Prop where
  filled : cs ≠ []
  digits : ∀ c ∈ cs, c.isDigit = true
  value : Nat.ofDigitChars 10 cs 0 = n

def Decimal (cs : List Char) (n : Nat) : Prop :=
  Digits cs n ∨ ∃ rest, cs = '+' :: rest ∧ Digits rest n

theorem digitOfDigitValue {c : Char} {d : Nat} (h : digitValue? c = some d) : c.isDigit = true := by
  unfold digitValue? at h
  split at h
  · rename_i between
    rw [Char.isDigit, Bool.and_eq_true, decide_eq_true_iff, decide_eq_true_iff]
    exact between
  · cases h

theorem digitsFromSome {cs : List Char} {acc n : Nat} :
    digitsFrom? acc cs = some n ↔
      (∀ c ∈ cs, c.isDigit = true) ∧ Nat.ofDigitChars 10 cs acc = n := by
  constructor
  · intro read
    have all : ∀ c ∈ cs, c.isDigit = true := by
      induction cs generalizing acc with
      | nil => simp
      | cons c cs ih =>
        obtain ⟨d, first, later⟩ := Option.bind_eq_some_iff.mp read
        intro other inside
        rcases List.mem_cons.mp inside with rfl | inside
        · exact digitOfDigitValue first
        · exact ih later other inside
    exact ⟨all, Option.some.inj ((digitsFromRun all acc).symm.trans read)⟩
  · rintro ⟨all, rfl⟩
    exact digitsFromRun all acc

theorem digitsSome {cs : List Char} {n : Nat} : digits? cs = some n ↔ Digits cs n := by
  cases cs with
  | nil =>
    constructor
    · intro read
      cases read
    · intro run
      exact absurd rfl run.filled
  | cons c cs =>
    refine digitsFromSome.trans ⟨?_, fun run => ⟨run.digits, run.value⟩⟩
    rintro ⟨all, value⟩
    exact ⟨List.cons_ne_nil c cs, all, value⟩

theorem unsignedSome {limit n : Nat} {cs : List Char} :
    unsigned? limit cs = some n ↔ Decimal cs n ∧ n < limit := by
  unfold unsigned?
  rw [Option.filter_eq_some_iff, digitsSome, decide_eq_true_iff, and_congr_left_iff]
  intro _
  split
  · rename_i rest
    have signed : ¬ Digits ('+' :: rest) n := by
      intro run
      exact absurd (run.digits '+' List.mem_cons_self) (by decide)
    simp [Decimal, signed]
  · rename_i unsigned
    refine ⟨Or.inl, ?_⟩
    rintro (run | ⟨rest, same, run⟩)
    · exact run
    · exact absurd same (unsigned rest)

end LintGate.Text
