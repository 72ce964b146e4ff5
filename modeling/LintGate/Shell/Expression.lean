/-! Basic regular expressions over bytes: characters, any byte, bracket expressions, repetition by
a star, and anchors. -/
namespace LintGate.Shell

inductive Atom where
  | byte (b : UInt8)
  | any
  | oneOf (excludes : Bool) (ranges : List (UInt8 × UInt8))
deriving DecidableEq, Repr

structure Piece where
  atom : Atom
  starred : Bool
deriving DecidableEq, Repr

structure Expression where
  atStart : Bool
  atEnd : Bool
  pieces : List Piece
deriving DecidableEq, Repr

def Atom.accepts (b : UInt8) : Atom → Bool
  | .byte x => x == b
  | .any => true
  | .oneOf excludes ranges => ranges.any (fun (low, high) => low ≤ b && b ≤ high) != excludes

def readRanges (done : List (UInt8 × UInt8)) : List UInt8 →
    Option (List (UInt8 × UInt8) × List UInt8)
  | [] => none
  | 93 :: rest => some (done, rest)
  | low :: 45 :: high :: rest =>
    if high = 93 then some ((45, 45) :: (low, low) :: done, rest)
    else readRanges ((low, high) :: done) rest
  | b :: rest => readRanges ((b, b) :: done) rest

def readBracket (bytes : List UInt8) : Option (Atom × List UInt8) := do
  let (excludes, bytes) := match bytes with
    | 94 :: rest => (true, rest)
    | _ => (false, bytes)
  let (first, bytes) := match bytes with
    | 93 :: rest => ([((93 : UInt8), (93 : UInt8))], rest)
    | _ => ([], bytes)
  let (ranges, rest) ← readRanges first bytes
  some (.oneOf excludes ranges, rest)

def readPieces (done : List Piece) (bytes : List UInt8) : Nat → Option (List Piece × Bool)
  | 0 => none
  | fuel + 1 => do
    match bytes with
    | [] => some (done.reverse, false)
    | [36] => some (done.reverse, true)
    | 42 :: rest =>
      match done with
      | piece :: before => readPieces (⟨piece.atom, true⟩ :: before) rest fuel
      | [] => readPieces [⟨.byte 42, false⟩] rest fuel
    | 46 :: rest => readPieces (⟨.any, false⟩ :: done) rest fuel
    | 91 :: rest =>
      let (atom, rest) ← readBracket rest
      readPieces (⟨atom, false⟩ :: done) rest fuel
    | 92 :: 110 :: rest => readPieces (⟨.byte 10, false⟩ :: done) rest fuel
    | 92 :: b :: rest => readPieces (⟨.byte b, false⟩ :: done) rest fuel
    | b :: rest => readPieces (⟨.byte b, false⟩ :: done) rest fuel

def Expression.parse? (source : List UInt8) : Option Expression := do
  let (atStart, body) := match source with
    | 94 :: rest => (true, rest)
    | _ => (false, source)
  let (pieces, atEnd) ← readPieces [] body (body.length + 1)
  some ⟨atStart, atEnd, pieces⟩

def matchPieces (atEnd : Bool) (pieces : List Piece) (bytes : List UInt8) :
    Nat → Option (List UInt8)
  | 0 => none
  | fuel + 1 =>
    match pieces, bytes with
    | [], bytes => if atEnd && !bytes.isEmpty then none else some bytes
    | ⟨atom, true⟩ :: rest, b :: more =>
      if atom.accepts b then
        (matchPieces atEnd (⟨atom, true⟩ :: rest) more fuel).orElse
          (fun _ => matchPieces atEnd rest (b :: more) fuel)
      else matchPieces atEnd rest (b :: more) fuel
    | ⟨_, true⟩ :: rest, [] => matchPieces atEnd rest [] fuel
    | ⟨atom, false⟩ :: rest, b :: more =>
      if atom.accepts b then matchPieces atEnd rest more fuel else none
    | ⟨_, false⟩ :: _, [] => none

def Expression.matchFront (e : Expression) (bytes : List UInt8) : Option (List UInt8) :=
  matchPieces e.atEnd e.pieces bytes (e.pieces.length + bytes.length + 1)

def Expression.find? (e : Expression) (before : List UInt8) :
    List UInt8 → Option (List UInt8 × List UInt8 × List UInt8)
  | [] => (e.matchFront []).map (fun _ => (before.reverse, [], []))
  | b :: rest =>
    match e.matchFront (b :: rest) with
    | some after => some (before.reverse, (b :: rest).take (rest.length + 1 - after.length), after)
    | none => if e.atStart then none else e.find? (b :: before) rest

def replacement (found : List UInt8) : List UInt8 → List UInt8
  | [] => []
  | 92 :: 110 :: rest => 10 :: replacement found rest
  | 92 :: b :: rest => b :: replacement found rest
  | 38 :: rest => found ++ replacement found rest
  | b :: rest => b :: replacement found rest

/-- Replaces the first match, or every match. An empty match is followed by one byte of the text. -/
def Expression.substitute (e : Expression) (text : List UInt8) (everywhere : Bool)
    (bytes : List UInt8) : Nat → List UInt8
  | 0 => bytes
  | fuel + 1 =>
    match e.find? [] bytes with
    | none => bytes
    | some (before, found, after) =>
      let done := before ++ replacement found text
      if !everywhere || e.atStart then done ++ after
      else match found, after with
        | [], [] => done
        | [], b :: after => done ++ b :: e.substitute text everywhere after fuel
        | _, [] => done
        | _, after => done ++ e.substitute text everywhere after fuel

end LintGate.Shell
