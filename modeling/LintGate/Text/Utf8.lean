/-! Reading bytes as UTF-8 where ill-formed input is allowed. Every maximal run of bytes that
starts a character and does not complete it, and every other byte that fits nowhere, becomes
one replacement character. -/
namespace LintGate.Text

def replacementChar : Char := Char.ofNat 0xFFFD

/-- Where a reader stands inside a character: how many bytes it still owes, what the next
one may be, and the code point so far. -/
structure Owed where
  count : Nat
  low : Nat
  high : Nat
  value : Nat
deriving DecidableEq, Repr

def opens? (b : Nat) : Option Owed :=
  if b < 0x80 then some ⟨0, 0, 0, b⟩
  else if 0xC2 ≤ b && b ≤ 0xDF then some ⟨1, 0x80, 0xBF, b % 0x20⟩
  else if b = 0xE0 then some ⟨2, 0xA0, 0xBF, 0⟩
  else if b = 0xED then some ⟨2, 0x80, 0x9F, b % 0x10⟩
  else if 0xE1 ≤ b && b ≤ 0xEF then some ⟨2, 0x80, 0xBF, b % 0x10⟩
  else if b = 0xF0 then some ⟨3, 0x90, 0xBF, 0⟩
  else if 0xF1 ≤ b && b ≤ 0xF3 then some ⟨3, 0x80, 0xBF, b % 0x08⟩
  else if b = 0xF4 then some ⟨3, 0x80, 0x8F, b % 0x08⟩
  else none

structure Decoder where
  done : List Char
  owed : Option Owed
deriving DecidableEq, Repr

namespace Decoder

def start : Decoder := ⟨[], none⟩

def first (done : List Char) (b : Nat) : Decoder :=
  match opens? b with
  | none => ⟨replacementChar :: done, none⟩
  | some ⟨0, _, _, value⟩ => ⟨Char.ofNat value :: done, none⟩
  | some owed => ⟨done, some owed⟩

/-- Takes one byte. A byte that cannot continue the open character ends it and is read again
at the boundary. -/
def step (d : Decoder) (byte : UInt8) : Decoder :=
  let b := byte.toNat
  match d.owed with
  | none => first d.done b
  | some ⟨count, low, high, value⟩ =>
    if low ≤ b && b ≤ high then
      let value := 0x40 * value + b % 0x40
      if count ≤ 1 then ⟨Char.ofNat value :: d.done, none⟩
      else ⟨d.done, some ⟨count - 1, 0x80, 0xBF, value⟩⟩
    else first (replacementChar :: d.done) b

def finish (d : Decoder) : List Char :=
  match d.owed with
  | none => d.done.reverse
  | some _ => (replacementChar :: d.done).reverse

end Decoder

def lossy (bytes : ByteArray) : String :=
  String.ofList (bytes.foldl Decoder.step Decoder.start).finish

end LintGate.Text
