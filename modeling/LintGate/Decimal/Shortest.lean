import LintGate.Decimal.Double

/-! The shortest decimal that reads back as a given double, and its layouts. -/
namespace LintGate.Double

def leadingZeros (num den : Nat) : Nat → Nat
  | 0 => 0
  | fuel + 1 => if den ≤ num then 0 else leadingZeros (num * 10) den fuel + 1

def decimalPoint (num den : Nat) : Int :=
  if den ≤ num then (Nat.toDigits 10 (num / den)).length
  else 1 - (leadingZeros num den 400 : Nat)

/-- The reals that round to a double: the value and the two ends over one denominator, and
whether the ends belong to it. -/
structure Interval where
  low : Nat
  value : Nat
  high : Nat
  den : Nat
  closed : Bool
deriving DecidableEq, Repr

def interval (x : Double) : Interval :=
  let (num, den) := scaled 1 1 (2 - x.exponent)
  let m := x.mantissa
  let below := if m = leastMantissa ∧ minExponent < x.exponent then 1 else 2
  ⟨(4 * m - below) * num, 4 * m * num, (4 * m + 2) * num, den, m % 2 = 0⟩

def Interval.has (i : Interval) (digits : Nat) (scale : Int) : Bool :=
  let (p, unit) :=
    if 0 ≤ scale then (digits * Nat.pow 10 scale.toNat * i.den, 1)
    else (digits * i.den, Nat.pow 10 (-scale).toNat)
  if i.closed then i.low * unit ≤ p && p ≤ i.high * unit
  else i.low * unit < p && p < i.high * unit

def Interval.nearest? (i : Interval) (scale : Int) : Option Nat :=
  let (num, unit) :=
    if 0 ≤ scale then (i.value, i.den * Nat.pow 10 scale.toNat)
    else (i.value * Nat.pow 10 (-scale).toNat, i.den)
  let d := num / unit
  let rounded := divRound num unit
  let other := if rounded = d then d + 1 else d
  if i.has rounded scale then some rounded
  else if i.has other scale then some other
  else none

def Interval.search (i : Interval) (point : Int) (n : Nat) : Nat → Nat × Int
  | 0 => (divRound i.value i.den, 0)
  | fuel + 1 =>
    match i.nearest? (point - n) with
    | some d => (d, point - n)
    | none => i.search point (n + 1) fuel

def dropZeros (digits : List Char) (scale : Int) : List Char × Int :=
  let kept := (digits.reverse.dropWhile (· == '0')).reverse
  (kept, scale + ((digits.length - kept.length : Nat) : Int))

def shortest (x : Double) : List Char × Int :=
  if x.mantissa = 0 then (['0'], 0)
  else
    let i := x.interval
    let (d, scale) := i.search (decimalPoint i.value i.den) 1 18
    dropZeros (Nat.toDigits 10 d) scale

def zeros (n : Nat) : List Char := List.replicate n '0'

def positional (digits : List Char) (scale : Int) : List Char :=
  let point := (digits.length : Int) + scale
  if 0 ≤ scale then digits ++ zeros scale.toNat ++ ".0".toList
  else if 0 < point then digits.take point.toNat ++ '.' :: digits.drop point.toNat
  else "0.".toList ++ zeros (-point).toNat ++ digits

def scientific (digits : List Char) (scale : Int) : List Char :=
  let power := (digits.length : Int) + scale - 1
  let tail := if digits.length ≤ 1 then [] else '.' :: digits.drop 1
  digits.take 1 ++ tail ++ 'e' :: (toString power).toList

def signed (x : Double) (body : List Char) : String :=
  String.ofList (if x.negative then '-' :: body else body)

/-- Positional text while the point stands at most sixteen places after the first digit and at
most four zeros follow it, a power of ten otherwise. -/
def text (x : Double) : String :=
  let (digits, scale) := x.shortest
  let point := (digits.length : Int) + scale
  x.signed (if -5 < point ∧ point ≤ 16 then positional digits scale else scientific digits scale)

end LintGate.Double
