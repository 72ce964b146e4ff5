/-! Finite binary floating-point numbers of 64 bits: `mantissa · 2 ^ exponent` with at most 53
bits of mantissa. Arithmetic is exact on naturals and rounded once, to nearest, ties to even. -/
namespace LintGate

structure Double where
  negative : Bool
  mantissa : Nat
  exponent : Int
deriving DecidableEq, Repr

namespace Double

def minExponent : Int := -1074

def maxExponent : Int := 971

def leastMantissa : Nat := 4503599627370496

def zero (negative : Bool) : Double := ⟨negative, 0, minExponent⟩

def divRound (num den : Nat) : Nat :=
  let q := num / den
  let r := num % den
  if 2 * r < den then q else if den < 2 * r then q + 1 else if q % 2 = 0 then q else q + 1

def scaled (num den : Nat) (e : Int) : Nat × Nat :=
  if 0 ≤ e then (num, den * Nat.pow 2 e.toNat) else (num * Nat.pow 2 (-e).toNat, den)

def ofRatio? (negative : Bool) (num den : Nat) : Option Double :=
  if num = 0 ∨ den = 0 then some (zero negative)
  else
    -- dividing by 2 ^ guess leaves a quotient between 2 ^ 51 and 2 ^ 53
    let guess : Int := (num.log2 : Int) - (den.log2 : Int) - 52
    let (n, d) := scaled num den guess
    let e := max minExponent (if n < d * leastMantissa then guess - 1 else guess)
    let (n, d) := scaled num den e
    let m := divRound n d
    let (m, e) := if m = 2 * leastMantissa then (leastMantissa, e + 1) else (m, e)
    if maxExponent < e then none else some ⟨negative, m, e⟩

def ofDecimal? (negative : Bool) (digits : Nat) (exponent : Int) : Option Double :=
  let top := exponent + (Nat.toDigits 10 digits).length
  if digits = 0 ∨ top < -330 then some (zero negative)
  else if 310 < top then none
  else if 0 ≤ exponent then ofRatio? negative (digits * Nat.pow 10 exponent.toNat) 1
  else ofRatio? negative digits (Nat.pow 10 (-exponent).toNat)

def ratio (x : Double) : Nat × Nat := scaled x.mantissa 1 (-x.exponent)

def mul? (negative : Bool) (x y : Double) : Option Double :=
  let (a, b) := x.ratio
  let (c, d) := y.ratio
  ofRatio? negative (a * c) (b * d)

def div? (negative : Bool) (x y : Double) : Option Double :=
  let (a, b) := x.ratio
  let (c, d) := y.ratio
  ofRatio? negative (a * d) (b * c)

end Double

end LintGate
