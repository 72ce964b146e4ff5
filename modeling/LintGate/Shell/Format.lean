import LintGate.Shell.Arithmetic
import LintGate.Text.Cut

/-! Texts that `echo` and `printf` write. -/
namespace LintGate.Shell

def bytesOf (c : Char) : ByteArray := c.toString.toUTF8

def letterEscape? : Char → Option Nat
  | 'a' => some 7
  | 'b' => some 8
  | 'f' => some 12
  | 'n' => some 10
  | 'r' => some 13
  | 't' => some 9
  | 'v' => some 11
  | '\\' => some 92
  | _ => none

def isOctal (c : Char) : Bool := '0' ≤ c && c ≤ '7'

def octal (most : Nat) (cs : List Char) : UInt8 × List Char :=
  let digits := (cs.take most).takeWhile isOctal
  (((inBase? 8 digits).getD 0).toUInt8, cs.drop digits.length)

def escaped (done : ByteArray) (cs : List Char) : Nat → ByteArray × Bool
  | 0 => (done, false)
  | fuel + 1 =>
    match cs with
    | [] => (done, false)
    | '\\' :: 'c' :: _ => (done, true)
    | '\\' :: '0' :: rest =>
      let (byte, rest) := octal 3 rest
      escaped (done.push byte) rest fuel
    | '\\' :: c :: rest =>
      match letterEscape? c with
      | some code => escaped (done.push code.toUInt8) rest fuel
      | none => escaped (done.push 92 ++ bytesOf c) rest fuel
    | c :: rest => escaped (done ++ bytesOf c) rest fuel

def escapedText (text : String) : ByteArray × Bool :=
  escaped .empty text.toList (text.length + 1)

def echoText (args : List String) : ByteArray :=
  let (silent, args) := match args with
    | "-n" :: rest => (true, rest)
    | _ => (false, args)
  let (bytes, ended) := escapedText (Text.join " " args)
  if silent || ended then bytes else bytes.push 10

structure Conversion where
  left : Bool
  plus : Bool
  zero : Bool
  width : Nat
  precision : Option Nat
  letter : Char
deriving DecidableEq, Repr

def conversion? (cs : List Char) : Option (Conversion × List Char) :=
  let isFlag (c : Char) := "-+ #0".toList.contains c
  let flags := cs.takeWhile isFlag
  let rest := cs.dropWhile isFlag
  let width := ((inBase? 10 (rest.takeWhile Char.isDigit)).getD 0)
  let rest := rest.dropWhile Char.isDigit
  let (precision, rest) := match rest with
    | '.' :: rest =>
      (some ((inBase? 10 (rest.takeWhile Char.isDigit)).getD 0), rest.dropWhile Char.isDigit)
    | _ => (none, rest)
  match rest with
  | letter :: rest =>
    some (⟨flags.contains '-', flags.contains '+', flags.contains '0', width, precision, letter⟩,
      rest)
  | [] => none

def fill (c : Char) (count : Nat) : List Char := List.replicate count c

def Conversion.pad (v : Conversion) (bytes : ByteArray) : ByteArray :=
  let gap := (String.ofList (fill ' ' (v.width - bytes.size))).toUTF8
  if v.left then bytes ++ gap else gap ++ bytes

def numberArgument? (text : String) : Option Int :=
  match text.toList with
  | '\'' :: c :: _ => some c.toNat
  | '"' :: c :: _ => some c.toNat
  | _ => signedConstant? text

def Conversion.number (v : Conversion) (n : Int) : ByteArray :=
  let base := if v.letter = 'o' then 8 else if v.letter = 'x' ∨ v.letter = 'X' then 16 else 10
  let unsigned := v.letter ≠ 'd' ∧ v.letter ≠ 'i'
  let magnitude := if unsigned then (n % Text.limit64).toNat else n.natAbs
  let digits := Nat.toDigits base magnitude
  let digits := if v.letter = 'X' then digits.map Char.toUpper else digits
  let digits := fill '0' (v.precision.getD 1 - digits.length) ++ digits
  let sign := if !unsigned ∧ n < 0 then ['-'] else if !unsigned ∧ v.plus then ['+'] else []
  let zeros := if v.zero ∧ !v.left ∧ v.precision.isNone
    then fill '0' (v.width - sign.length - digits.length) else []
  v.pad (String.ofList (sign ++ zeros ++ digits)).toUTF8

/-- Output of a format so far: bytes, arguments that are left, a complaint about a malformed
argument and whether the output ended itself. -/
structure Printing where
  bytes : ByteArray
  args : List String
  malformed : Option String
  ended : Bool

def Printing.convert (p : Printing) (v : Conversion) : Printing :=
  let arg := p.args.head?.getD ""
  let p := { p with args := p.args.tail }
  let cut (bytes : ByteArray) := match v.precision with
    | some n => bytes.extract 0 (min n bytes.size)
    | none => bytes
  match v.letter with
  | 's' => { p with bytes := p.bytes ++ v.pad (cut arg.toUTF8) }
  | 'b' =>
    let (bytes, ended) := escapedText arg
    { p with bytes := p.bytes ++ v.pad (cut bytes), ended := ended }
  | 'c' => { p with bytes := p.bytes ++ v.pad (arg.toUTF8.extract 0 (min 1 arg.utf8ByteSize)) }
  | _ =>
    if "diuoxX".toList.contains v.letter then
      match numberArgument? arg with
      | some n => { p with bytes := p.bytes ++ v.number n }
      | none =>
        { p with bytes := p.bytes ++ v.number 0
                 malformed := some ("printf: " ++ arg ++ ": expected numeric value") }
    else
      { p with malformed := some ("printf: %" ++ v.letter.toString ++ ": invalid directive")
               ended := true }

def Printing.pass (p : Printing) (cs : List Char) : Nat → Printing
  | 0 => p
  | fuel + 1 =>
    if p.ended then p
    else match cs with
      | [] => p
      | '%' :: '%' :: rest => pass { p with bytes := p.bytes.push 37 } rest fuel
      | '%' :: rest =>
        match conversion? rest with
        | some (v, rest) => pass (p.convert v) rest fuel
        | none => { p with malformed := some "printf: missing format character", ended := true }
      | '\\' :: c :: rest =>
        if isOctal c then
          let (byte, rest) := octal 3 (c :: rest)
          pass { p with bytes := p.bytes.push byte } rest fuel
        else match letterEscape? c with
          | some code => pass { p with bytes := p.bytes.push code.toUInt8 } rest fuel
          | none => pass { p with bytes := p.bytes.push 92 ++ bytesOf c } rest fuel
      | c :: rest => pass { p with bytes := p.bytes ++ bytesOf c } rest fuel

def Printing.run (p : Printing) (cs : List Char) : Nat → Printing
  | 0 => p
  | fuel + 1 =>
    let next := p.pass cs (cs.length + 1)
    if next.ended ∨ next.args.isEmpty ∨ next.args.length = p.args.length then next
    else next.run cs fuel

def printfText (format : String) (args : List String) : Printing :=
  Printing.run ⟨.empty, args, none, false⟩ format.toList (args.length + 1)

end LintGate.Shell
