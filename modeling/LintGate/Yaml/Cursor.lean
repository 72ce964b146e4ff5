/-! A position in a YAML text and the characters after it. -/
namespace LintGate.Yaml

structure Cursor where
  rest : List Char
  index : Nat
  line : Nat
  column : Nat
deriving DecidableEq, Repr

def isBreak (c : Char) : Bool :=
  c == '\n' || c == '\r' || c.toNat == 0x85 || c.toNat == 0x2028 || c.toNat == 0x2029

def isSpace (c : Char) : Bool := c == ' ' || c == '\t'

def endsWord : Option Char → Bool
  | none => true
  | some c => isSpace c || isBreak c

def endsLine : Option Char → Bool
  | none => true
  | some c => isBreak c

def isWordChar (c : Char) : Bool := c.isAlphanum || c == '_' || c == '-'

def isAllowed (c : Char) : Bool :=
  let n := c.toNat
  n == 0x09 || n == 0x0A || n == 0x0D || (0x20 ≤ n && n ≤ 0x7E) || n == 0x85 ||
    (0xA0 ≤ n && n ≤ 0xD7FF) || (0xE000 ≤ n && n ≤ 0xFFFD) || 0x10000 ≤ n

namespace Cursor

def start (text : List Char) : Cursor := ⟨text, 0, 0, 0⟩

def peek (c : Cursor) : Option Char := c.rest.head?

def peekAt (c : Cursor) (n : Nat) : Option Char := c.rest[n]?

def skip (c : Cursor) : Cursor :=
  match c.rest with
  | [] => c
  | _ :: rest => ⟨rest, c.index + 1, c.line, c.column + 1⟩

def skipMany (c : Cursor) (n : Nat) : Cursor :=
  ⟨c.rest.drop n, c.index + min n c.rest.length, c.line, c.column + min n c.rest.length⟩

def skipWhile (c : Cursor) (p : Char → Bool) : Cursor := c.skipMany (c.rest.takeWhile p).length

def takeWhile (c : Cursor) (p : Char → Bool) : List Char × Cursor :=
  (c.rest.takeWhile p, c.skipWhile p)

def readBreak (c : Cursor) : List Char × Cursor :=
  match c.rest with
  | '\r' :: '\n' :: rest => (['\n'], ⟨rest, c.index + 2, c.line + 1, 0⟩)
  | b :: rest =>
    let text := if b.toNat == 0x2028 || b.toNat == 0x2029 then b else '\n'
    ([text], ⟨rest, c.index + 1, c.line + 1, 0⟩)
  | [] => ([], c)

def skipBreak (c : Cursor) : Cursor := c.readBreak.2

def skipComment (c : Cursor) : Cursor :=
  if c.peek = some '#' then c.skipWhile (fun ch => !isBreak ch) else c

def atMark (c : Cursor) (mark : Char) : Bool :=
  c.column == 0 && c.peek == some mark && c.peekAt 1 == some mark && c.peekAt 2 == some mark &&
    endsWord (c.peekAt 3)

def atDocumentMark (c : Cursor) : Bool := c.atMark '-' || c.atMark '.'

end Cursor

end LintGate.Yaml
