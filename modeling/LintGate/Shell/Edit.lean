import LintGate.Shell.Expression
import LintGate.Shell.Stream

/-! Line editing by scripts of one-letter commands. -/
namespace LintGate.Shell

inductive Address where
  | every
  | line (n : Nat)
  | last
  | matching (e : Expression)
  | range (low high : Nat)
deriving DecidableEq, Repr

inductive EditCommand where
  | substitute (e : Expression) (text : List UInt8) (everywhere shows : Bool)
  | delete
  | display
  | quit
deriving DecidableEq, Repr

def isDigitByte (b : UInt8) : Bool := 48 ≤ b && b ≤ 57

def numberOf (digits : List UInt8) : Nat := digits.foldl (fun n b => 10 * n + (b - 48).toNat) 0

def takeDelimited (delimiter : UInt8) (done : List UInt8) : List UInt8 →
    Option (List UInt8 × List UInt8)
  | [] => none
  | 92 :: b :: rest =>
    if b = delimiter then takeDelimited delimiter (b :: done) rest
    else takeDelimited delimiter (b :: 92 :: done) rest
  | b :: rest =>
    if b = delimiter then some (done.reverse, rest) else takeDelimited delimiter (b :: done) rest

def readAddress (source : List UInt8) : Option (Address × List UInt8) :=
  match source with
  | 36 :: rest => some (.last, rest)
  | 47 :: rest => do
    let (pattern, rest) ← takeDelimited 47 [] rest
    let e ← Expression.parse? pattern
    some (.matching e, rest)
  | _ =>
    let digits := source.takeWhile isDigitByte
    let rest := source.dropWhile isDigitByte
    if digits.isEmpty then some (.every, source)
    else match rest with
      | 44 :: rest =>
        some (.range (numberOf digits) (numberOf (rest.takeWhile isDigitByte)),
          rest.dropWhile isDigitByte)
      | _ => some (.line (numberOf digits), rest)

def readEditCommand (source : List UInt8) : Option (EditCommand × List UInt8) :=
  match source with
  | 115 :: delimiter :: rest => do
    let (pattern, rest) ← takeDelimited delimiter [] rest
    let (text, rest) ← takeDelimited delimiter [] rest
    let e ← Expression.parse? pattern
    let isFlag (b : UInt8) := b == 103 || b == 112
    let flags := rest.takeWhile isFlag
    some (.substitute e text (flags.contains 103) (flags.contains 112), rest.dropWhile isFlag)
  | 100 :: rest => some (.delete, rest)
  | 112 :: rest => some (.display, rest)
  | 113 :: rest => some (.quit, rest)
  | _ => none

def isBetween (b : UInt8) : Bool := b == 32 || b == 59 || b == 10

def readEdits (done : List (Address × EditCommand)) (source : List UInt8) :
    Nat → Option (List (Address × EditCommand))
  | 0 => none
  | fuel + 1 =>
    match source.dropWhile isBetween with
    | [] => some done.reverse
    | source => do
      let (address, rest) ← readAddress source
      let (command, rest) ← readEditCommand (rest.dropWhile (· == 32))
      readEdits ((address, command) :: done) rest fuel

def Address.covers (number : Nat) (isLast : Bool) (line : List UInt8) : Address → Bool
  | .every => true
  | .line n => n == number
  | .last => isLast
  | .matching e => (e.find? [] line).isSome
  | .range low high => (low ≤ number && number ≤ high) || number == low

structure Editing where
  line : List UInt8
  shown : List (List UInt8)
  kept : Bool
  goesOn : Bool

def Editing.step (number : Nat) (isLast : Bool) (s : Editing)
    (edit : Address × EditCommand) : Editing :=
  if !s.kept || !s.goesOn || !edit.1.covers number isLast s.line then s
  else match edit.2 with
    | .delete => { s with kept := false }
    | .quit => { s with goesOn := false }
    | .display => { s with shown := s.line :: s.shown }
    | .substitute e text everywhere shows =>
      let changed := (e.find? [] s.line).isSome
      let line := e.substitute text everywhere s.line (s.line.length + 1)
      { s with line := line, shown := if shows && changed then line :: s.shown else s.shown }

def editLines (silent : Bool) (edits : List (Address × EditCommand)) (number : Nat) :
    List (List UInt8) → List (List UInt8)
  | [] => []
  | line :: rest =>
    let body := line.takeWhile (· != newline)
    let ending := line.dropWhile (· != newline)
    let s := edits.foldl (Editing.step number rest.isEmpty) ⟨body, [], true, true⟩
    let shown := s.shown.reverse ++ if s.kept && !silent then [s.line] else []
    shown.map (· ++ ending) ++
      if s.goesOn then editLines silent edits (number + 1) rest else []

end LintGate.Shell
