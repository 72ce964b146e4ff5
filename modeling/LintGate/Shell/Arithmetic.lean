import LintGate.Text.Numeral

/-! Arithmetic of the shell on signed numbers of 64 bits. -/
namespace LintGate.Shell

abbrev Numbers := List (String × Int)

inductive ArithmeticError where
  | malformed
  | divisionByZero
deriving DecidableEq, Repr

def ArithmeticError.message : ArithmeticError → String
  | .malformed => "expecting primary"
  | .divisionByZero => "division by zero"

abbrev Evaluation := Except ArithmeticError (Int × List Char × Numbers)

def wrap (n : Int) : Int := Int.bmod n Text.limit64

def ofBool (b : Bool) : Int := if b then 1 else 0

def skipGap (cs : List Char) : List Char :=
  cs.dropWhile (fun c => c == ' ' || c == '\t' || c == '\n')

def binaryOperators : List (String × Nat) :=
  [("||", 1), ("&&", 2), ("==", 6), ("!=", 6), ("<=", 7), (">=", 7), ("<<", 8), (">>", 8),
   ("|", 3), ("^", 4), ("&", 5), ("<", 7), (">", 7), ("+", 9), ("-", 9), ("*", 10), ("/", 10),
   ("%", 10)]

def applyOperator (operator : String) (a b : Int) : Except ArithmeticError Int :=
  match operator with
  | "||" => .ok (ofBool (a != 0 || b != 0))
  | "&&" => .ok (ofBool (a != 0 && b != 0))
  | "==" => .ok (ofBool (a == b))
  | "!=" => .ok (ofBool (a != b))
  | "<=" => .ok (ofBool (a ≤ b))
  | ">=" => .ok (ofBool (b ≤ a))
  | "<" => .ok (ofBool (a < b))
  | ">" => .ok (ofBool (b < a))
  | "<<" => .ok (wrap (a * Nat.pow 2 (b % 64).toNat))
  | ">>" => .ok (a.fdiv (Nat.pow 2 (b % 64).toNat))
  | "+" => .ok (wrap (a + b))
  | "-" => .ok (wrap (a - b))
  | "*" => .ok (wrap (a * b))
  | "/" => if b = 0 then .error .divisionByZero else .ok (wrap (a.tdiv b))
  | "%" => if b = 0 then .error .divisionByZero else .ok (a.tmod b)
  | "|" => .ok ((BitVec.ofInt 64 a ||| BitVec.ofInt 64 b).toInt)
  | "&" => .ok ((BitVec.ofInt 64 a &&& BitVec.ofInt 64 b).toInt)
  | "^" => .ok ((BitVec.ofInt 64 a ^^^ BitVec.ofInt 64 b).toInt)
  | _ => .error .malformed

def digitOf? (c : Char) : Option Nat :=
  if c.isDigit then some (c.toNat - '0'.toNat)
  else if 'a' ≤ c ∧ c ≤ 'f' then some (c.toNat - 'a'.toNat + 10)
  else if 'A' ≤ c ∧ c ≤ 'F' then some (c.toNat - 'A'.toNat + 10)
  else none

def inBase? (base : Nat) (cs : List Char) : Option Nat :=
  if cs.isEmpty then none
  else cs.foldlM (fun n c => ((digitOf? c).filter (· < base)).map (base * n + ·)) 0

def constant? (cs : List Char) : Option Int :=
  let value := match cs with
    | '0' :: 'x' :: rest => inBase? 16 rest
    | '0' :: 'X' :: rest => inBase? 16 rest
    | '0' :: c :: rest => inBase? 8 (c :: rest)
    | _ => inBase? 10 cs
  value.map (fun n => wrap n)

def signedConstant? (text : String) : Option Int :=
  match skipGap text.toList with
  | [] => some 0
  | '-' :: rest => (constant? rest).map (fun n => wrap (-n))
  | '+' :: rest => constant? rest
  | cs => constant? cs

def operatorAt? (cs : List Char) : Option (String × Nat) :=
  binaryOperators.find? (fun (o, _) => o.toList.isPrefixOf cs)

def assignmentAt? (cs : List Char) : Option (String × List Char) :=
  match cs with
  | '=' :: '=' :: _ => none
  | '=' :: rest => some ("", rest)
  | c :: '=' :: rest =>
    if "+-*/%&|^".toList.contains c then some (c.toString, rest) else none
  | _ => none

mutual

def operand (vars : Numbers) (cs : List Char) (fuel : Nat) : Evaluation :=
  match fuel with
  | 0 => .error .malformed
  | fuel + 1 =>
    match skipGap cs with
    | '(' :: rest => do
      let (n, rest, vars) ← ternary vars rest fuel
      let ')' :: rest := skipGap rest | .error .malformed
      .ok (n, rest, vars)
    | '-' :: rest => do
      let (n, rest, vars) ← operand vars rest fuel
      .ok (wrap (-n), rest, vars)
    | '+' :: rest => operand vars rest fuel
    | '!' :: rest => do
      let (n, rest, vars) ← operand vars rest fuel
      .ok (ofBool (n == 0), rest, vars)
    | '~' :: rest => do
      let (n, rest, vars) ← operand vars rest fuel
      .ok (-n - 1, rest, vars)
    | c :: rest =>
      let cs := c :: rest
      let isName (c : Char) := c.isAlphanum || c == '_'
      if c.isDigit then
        match constant? (cs.takeWhile Char.isAlphanum) with
        | some n => .ok (n, cs.dropWhile Char.isAlphanum, vars)
        | none => .error .malformed
      else if isName c then
        let name := String.ofList (cs.takeWhile isName)
        let after := cs.dropWhile isName
        let old := (vars.lookup name).getD 0
        match assignmentAt? (skipGap after) with
        | some (operator, rest) => do
          let (n, rest, vars) ← ternary vars rest fuel
          let n ← if operator.isEmpty then .ok n else applyOperator operator old n
          .ok (n, rest, (name, n) :: vars)
        | none => .ok (old, after, vars)
      else .error .malformed
    | [] => .error .malformed
termination_by structural fuel

def binary (level : Nat) (vars : Numbers) (cs : List Char) (fuel : Nat) : Evaluation :=
  match fuel with
  | 0 => .error .malformed
  | fuel + 1 => do
    let (n, rest, vars) ← operand vars cs fuel
    binaryFrom level n vars rest fuel
termination_by structural fuel

def binaryFrom (level : Nat) (left : Int) (vars : Numbers) (cs : List Char) (fuel : Nat) :
    Evaluation :=
  match fuel with
  | 0 => .error .malformed
  | fuel + 1 =>
    match operatorAt? (skipGap cs) with
    | some (operator, tightness) =>
      if tightness < level then .ok (left, cs, vars)
      else do
        let (right, rest, vars) ←
          binary (tightness + 1) vars ((skipGap cs).drop operator.length) fuel
        let n ← applyOperator operator left right
        binaryFrom level n vars rest fuel
    | none => .ok (left, cs, vars)
termination_by structural fuel

def ternary (vars : Numbers) (cs : List Char) (fuel : Nat) : Evaluation :=
  match fuel with
  | 0 => .error .malformed
  | fuel + 1 => do
    let (n, rest, vars) ← binary 1 vars cs fuel
    match skipGap rest with
    | '?' :: rest =>
      let (a, rest, vars) ← ternary vars rest fuel
      let ':' :: rest := skipGap rest | .error .malformed
      let (b, rest, vars) ← ternary vars rest fuel
      .ok (if n = 0 then b else a, rest, vars)
    | _ => .ok (n, rest, vars)
termination_by structural fuel

end

def evaluate (vars : Numbers) (source : String) : Except ArithmeticError (Int × Numbers) :=
  let cs := source.toList
  if (skipGap cs).isEmpty then .ok (0, vars)
  else do
    let (n, rest, vars) ← ternary vars cs (4 * cs.length + 8)
    if (skipGap rest).isEmpty then .ok (n, vars) else .error .malformed

end LintGate.Shell
