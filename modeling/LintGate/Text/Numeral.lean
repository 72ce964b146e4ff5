/-! Unsigned decimal numerals within a bound. -/
namespace LintGate.Text

def limit32 : Nat := 4294967296

def limit64 : Nat := 18446744073709551616

def signedLimit64 : Nat := 9223372036854775808

def limit128 : Nat := 340282366920938463463374607431768211456

def signedLimit128 : Nat := 170141183460469231731687303715884105728

def digitValue? (c : Char) : Option Nat :=
  if '0' ≤ c ∧ c ≤ '9' then some (c.toNat - '0'.toNat) else none

def digitsFrom? (acc : Nat) : List Char → Option Nat
  | [] => some acc
  | c :: cs => (digitValue? c).bind (fun d => digitsFrom? (10 * acc + d) cs)

def digits? : List Char → Option Nat
  | [] => none
  | c :: cs => digitsFrom? 0 (c :: cs)

def unsigned? (limit : Nat) (cs : List Char) : Option Nat :=
  let body := match cs with
    | '+' :: rest => rest
    | _ => cs
  (digits? body).filter (· < limit)

end LintGate.Text
