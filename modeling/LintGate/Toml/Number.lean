import LintGate.Json.Reader

/-! Numbers, dates and times of a TOML document. -/
namespace LintGate.Toml

def joinedDigits? (isDigit : Char → Bool) : List Char → Option (List Char)
  | [] => none
  | [c] => if isDigit c then some [c] else none
  | c :: '_' :: rest => if isDigit c then (joinedDigits? isDigit rest).map (c :: ·) else none
  | c :: rest => if isDigit c then (joinedDigits? isDigit rest).map (c :: ·) else none

def ofBase? (base : Nat) (cs : List Char) : Option Nat := do
  let digits ← joinedDigits? (fun c => (Json.hexValue? c).any (· < base)) cs
  digits.foldlM (fun n c => (Json.hexValue? c).map (base * n + ·)) 0

def wholeDigits? (cs : List Char) : Option (List Char) :=
  match cs with
  | '0' :: _ :: _ => none
  | _ => joinedDigits? Char.isDigit cs

def signed : List Char → Bool × List Char
  | '+' :: rest => (false, rest)
  | '-' :: rest => (true, rest)
  | cs => (false, cs)

def integer? (cs : List Char) : Option Int := do
  let n : Int ← match cs with
    | '0' :: 'x' :: rest => (ofBase? 16 rest).map Int.ofNat
    | '0' :: 'o' :: rest => (ofBase? 8 rest).map Int.ofNat
    | '0' :: 'b' :: rest => (ofBase? 2 rest).map Int.ofNat
    | _ => do
      let (negative, body) := signed cs
      let digits ← wholeDigits? body
      let n ← Text.digits? digits
      some (if negative then -(n : Int) else n)
  if -(Text.signedLimit64 : Int) ≤ n ∧ n < Text.limit64 then some n else none

def power? : List Char → Option Int
  | [] => some 0
  | _ :: rest => do
    let (negative, body) := signed rest
    let n ← (joinedDigits? Char.isDigit body).bind Text.digits?
    some (if negative then -(n : Int) else n)

def isExponentMark (c : Char) : Bool := c == 'e' || c == 'E'

def float? (cs : List Char) : Option Json := do
  let (negative, body) := signed cs
  if body = "inf".toList ∨ body = "nan".toList then some .null
  else
    let mantissa := body.takeWhile (fun c => !isExponentMark c)
    let whole ← wholeDigits? (mantissa.takeWhile (· != '.'))
    let fraction ← match mantissa.dropWhile (· != '.') with
      | [] => some []
      | _ :: digits => joinedDigits? Char.isDigit digits
    let power ← power? (body.dropWhile (fun c => !isExponentMark c))
    let digits ← Text.digits? (whole ++ fraction)
    let x ← Double.ofDecimal? negative digits (power - fraction.length)
    some (.float x)

def pair? (limit : Nat) (a b : Char) : Option Nat := (Text.digits? [a, b]).filter (· ≤ limit)

def isLeap (year : Nat) : Bool := (year % 4 == 0 && year % 100 != 0) || year % 400 == 0

def daysIn (year month : Nat) : Nat :=
  if month = 2 then if isLeap year then 29 else 28
  else if [4, 6, 9, 11].contains month then 30
  else 31

def date? : List Char → Option (List Char × List Char)
  | y₁ :: y₂ :: y₃ :: y₄ :: '-' :: m₁ :: m₂ :: '-' :: d₁ :: d₂ :: rest => do
    let year ← Text.digits? [y₁, y₂, y₃, y₄]
    let month ← pair? 12 m₁ m₂
    let day ← pair? (daysIn year month) d₁ d₂
    if month = 0 ∨ day = 0 then none
    else some ([y₁, y₂, y₃, y₄, '-', m₁, m₂, '-', d₁, d₂], rest)
  | _ => none

def fraction (digits : List Char) : List Char :=
  let kept := ((digits.take 9).reverse.dropWhile (· == '0')).reverse
  if kept.isEmpty then ['.', '0'] else '.' :: kept

def seconds? : List Char → Option (List Char × List Char)
  | ':' :: s₁ :: s₂ :: rest => do
    let _ ← pair? 60 s₁ s₂
    match rest with
    | '.' :: rest =>
      let digits := rest.takeWhile Char.isDigit
      if digits.isEmpty then none
      else some (':' :: s₁ :: s₂ :: fraction digits, rest.dropWhile Char.isDigit)
    | rest => some ([':', s₁, s₂], rest)
  | ':' :: _ => none
  | rest => some ([], rest)

def time? : List Char → Option (List Char × List Char)
  | h₁ :: h₂ :: ':' :: m₁ :: m₂ :: rest => do
    let _ ← pair? 23 h₁ h₂
    let _ ← pair? 59 m₁ m₂
    let (seconds, rest) ← seconds? rest
    some ([h₁, h₂, ':', m₁, m₂] ++ seconds, rest)
  | _ => none

def offset? : List Char → Option (List Char)
  | [] => some []
  | ['Z'] | ['z'] => some ['Z']
  | [sign, h₁, h₂, ':', m₁, m₂] => do
    if sign ≠ '+' ∧ sign ≠ '-' then none
    let _ ← pair? 23 h₁ h₂
    let _ ← pair? 59 m₁ m₂
    some [sign, h₁, h₂, ':', m₁, m₂]
  | _ => none

def moment? (cs : List Char) : Option String :=
  match date? cs with
  | some (date, []) => some (String.ofList date)
  | some (date, mark :: rest) => do
    if mark ≠ 'T' ∧ mark ≠ 't' ∧ mark ≠ ' ' then none
    let (time, rest) ← time? rest
    let offset ← offset? rest
    some (String.ofList (date ++ 'T' :: time ++ offset))
  | none =>
    match time? cs with
    | some (time, []) => some (String.ofList time)
    | _ => none

/-- The name of the only field of an object that holds a date or a time. -/
def momentField : String := "$__toml_private_datetime"

def isScalarChar (c : Char) : Bool := c.isAlphanum || "+-_.:".toList.contains c

def scalarRun (cs : List Char) : List Char × List Char :=
  let run := cs.takeWhile isScalarChar
  let rest := cs.dropWhile isScalarChar
  match date? run, rest with
  | some (_, []), ' ' :: d :: more =>
    if d.isDigit then
      (run ++ ' ' :: (d :: more).takeWhile isScalarChar, (d :: more).dropWhile isScalarChar)
    else (run, rest)
  | _, _ => (run, rest)

def scalar? (cs : List Char) : Option Json :=
  if cs = "true".toList then some (.bool true)
  else if cs = "false".toList then some (.bool false)
  else match integer? cs with
    | some n => some (.int n)
    | none =>
      match moment? cs with
      | some text => some (.object [(momentField, .text text)])
      | none => if (wholeDigits? (signed cs).2).isSome then none else float? cs

end LintGate.Toml
