import LintGate.Json.Basic
import LintGate.Text.Cut
import LintGate.Text.Numeral

/-! Reading JSON text. Fields keep their order; of two fields with one name the later value
counts, in the place of the first. -/
namespace LintGate.Json

def skipSpace (cs : List Char) : List Char :=
  cs.dropWhile (fun c => c == ' ' || c == '\n' || c == '\r' || c == '\t')

def hexValue? (c : Char) : Option Nat :=
  if '0' ≤ c ∧ c ≤ '9' then some (c.toNat - '0'.toNat)
  else if 'a' ≤ c ∧ c ≤ 'f' then some (c.toNat - 'a'.toNat + 10)
  else if 'A' ≤ c ∧ c ≤ 'F' then some (c.toNat - 'A'.toNat + 10)
  else none

def hex? (cs : List Char) : Option Nat :=
  cs.foldlM (fun n c => (hexValue? c).map (16 * n + ·)) 0

def simpleEscape? (c : Char) : Option Char :=
  match c with
  | '"' => some '"'
  | '\\' => some '\\'
  | '/' => some '/'
  | 'b' => some '\x08'
  | 'f' => some '\x0c'
  | 'n' => some '\n'
  | 'r' => some '\r'
  | 't' => some '\t'
  | _ => none

/-- Reads to the closing quote. `done` holds the characters read, last first, and `high` the
first half of a surrogate pair whose second half has to follow. -/
def readText (high : Option Nat) (done : List Char) : List Char → Option (String × List Char)
  | [] => none
  | '"' :: rest => if high.isSome then none else some (String.ofList done.reverse, rest)
  | '\\' :: 'u' :: a :: b :: c :: d :: rest =>
    match hex? [a, b, c, d], high with
    | none, _ => none
    | some n, some h =>
      if 0xDC00 ≤ n ∧ n ≤ 0xDFFF then
        readText none (Char.ofNat (0x10000 + 0x400 * (h - 0xD800) + (n - 0xDC00)) :: done) rest
      else none
    | some n, none =>
      if 0xD800 ≤ n ∧ n ≤ 0xDBFF then readText (some n) done rest
      else if 0xDC00 ≤ n ∧ n ≤ 0xDFFF then none
      else readText none (Char.ofNat n :: done) rest
  | '\\' :: e :: rest =>
    match simpleEscape? e, high with
    | some c, none => readText none (c :: done) rest
    | _, _ => none
  | c :: rest =>
    if high.isSome ∨ c.toNat < 0x20 ∨ c = '\\' then none else readText none (c :: done) rest

structure Scaled where
  digits : Nat
  power : Int
  full : Bool
deriving DecidableEq, Repr

def Scaled.whole (s : Scaled) (c : Char) : Scaled :=
  let next := 10 * s.digits + (c.toNat - '0'.toNat)
  -- Once a digit does not fit, it and all after it count as a power of ten only.
  if s.full ∨ Text.limit64 ≤ next then { s with power := s.power + 1, full := true }
  else { s with digits := next }

def Scaled.fraction (s : Scaled) (c : Char) : Scaled :=
  let next := 10 * s.digits + (c.toNat - '0'.toNat)
  if s.full ∨ Text.limit64 ≤ next then { s with full := true }
  else { s with digits := next, power := s.power - 1 }

def scaleBy? (negative : Bool) (x : Double) (power : Int) : Nat → Option Double
  | 0 => none
  | fuel + 1 =>
    if power.natAbs ≤ 308 then do
      let unit ← Double.ofDecimal? false 1 power.natAbs
      if 0 ≤ power then Double.mul? negative x unit else Double.div? negative x unit
    else if x.mantissa = 0 then some (Double.zero negative)
    else if 0 ≤ power then none
    else do
      let unit ← Double.ofDecimal? false 1 308
      let x ← Double.div? negative x unit
      scaleBy? negative x (power + 308) fuel

def Scaled.value? (s : Scaled) (negative : Bool) : Option Json := do
  let x ← Double.ofRatio? negative s.digits 1
  let y ← scaleBy? negative x s.power 20
  some (.float y)

def exponent? (cs : List Char) : Option (Int × List Char) :=
  let (sign, body) : Int × List Char := match cs with
    | '-' :: rest => (-1, rest)
    | '+' :: rest => (1, rest)
    | _ => (1, cs)
  (Text.digits? (body.takeWhile Char.isDigit)).map
    (fun n => (sign * min n 100000, body.dropWhile Char.isDigit))

def wholeValue? (negative : Bool) (s : Scaled) : Option Json :=
  if s.full then s.value? negative
  else if !negative then some (.int s.digits)
  else if s.digits = 0 ∨ Text.signedLimit64 < s.digits then
    (Double.ofRatio? true s.digits 1).map .float
  else some (.int (-s.digits))

def readNumber (cs : List Char) : Option (Json × List Char) := do
  let (negative, cs) := match cs with
    | '-' :: rest => (true, rest)
    | _ => (false, cs)
  let whole := cs.takeWhile Char.isDigit
  let rest := cs.dropWhile Char.isDigit
  if whole.isEmpty ∨ (whole.length > 1 ∧ whole.head? = some '0') then none
  let s := whole.foldl Scaled.whole ⟨0, 0, false⟩
  let (s, point, rest) ← match rest with
    | '.' :: after =>
      let digits := after.takeWhile Char.isDigit
      if digits.isEmpty then none
      else some (digits.foldl Scaled.fraction { s with full := false }, true,
        after.dropWhile Char.isDigit)
    | _ => some (s, false, rest)
  match rest with
  | c :: after =>
    if c = 'e' ∨ c = 'E' then
      let (e, rest) ← exponent? after
      let value ← { s with power := s.power + e }.value? negative
      some (value, rest)
    else (if point then s.value? negative else wholeValue? negative s).map (·, rest)
  | [] => (if point then s.value? negative else wholeValue? negative s).map (·, [])

def literal? (cs : List Char) : Option (Json × List Char) :=
  let one (word : String) (value : Json) := (Text.after? word.toList cs).map (value, ·)
  (one "null" .null).orElse fun _ =>
    (one "true" (.bool true)).orElse fun _ => one "false" (.bool false)

mutual

/-- Reads a value. Each call spends fuel, of which one unit for each character is enough. -/
def readValue (fuel : Nat) (cs : List Char) : Option (Json × List Char) :=
  match fuel with
  | 0 => none
  | fuel + 1 =>
    match skipSpace cs with
    | '"' :: rest => (readText none [] rest).map (fun (s, rest) => (.text s, rest))
    | '[' :: rest =>
      match skipSpace rest with
      | ']' :: rest => some (.list [], rest)
      | rest => readItems fuel [] rest
    | '\x7b' :: rest =>
      match skipSpace rest with
      | '\x7d' :: rest => some (.object [], rest)
      | rest => readFields fuel [] rest
    | rest => (literal? rest).orElse (fun _ => readNumber rest)

def readItems (fuel : Nat) (done : List Json) (cs : List Char) : Option (Json × List Char) :=
  match fuel with
  | 0 => none
  | fuel + 1 => do
    let (item, rest) ← readValue fuel cs
    match skipSpace rest with
    | ',' :: rest => readItems fuel (item :: done) rest
    | ']' :: rest => some (.list (item :: done).reverse, rest)
    | _ => none

def readFields (fuel : Nat) (done : List (String × Json)) (cs : List Char) :
    Option (Json × List Char) :=
  match fuel with
  | 0 => none
  | fuel + 1 =>
    match skipSpace cs with
    | '"' :: rest => do
      let (name, rest) ← readText none [] rest
      match skipSpace rest with
      | ':' :: rest =>
        let (value, rest) ← readValue fuel rest
        match skipSpace rest with
        | ',' :: rest => readFields fuel ((name, value) :: done) rest
        | '\x7d' :: rest => some (.object (Fields.ofPairs ((name, value) :: done).reverse), rest)
        | _ => none
      | _ => none
    | _ => none

end

def parse? (text : String) : Option Json :=
  let cs := text.toList
  match readValue (2 * cs.length + 2) cs with
  | some (value, rest) => if (skipSpace rest).isEmpty then some value else none
  | none => none

end LintGate.Json
