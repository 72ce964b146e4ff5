import LintGate.Json.Reader

/-! Texts, keys, comments and white space of a TOML document. Readers give what they read and
the characters after it. -/
namespace LintGate.Toml

def isBlank (c : Char) : Bool := c == ' ' || c == '\t'

def isVisible (c : Char) : Bool := c == '\t' || (0x20 ≤ c.toNat && c.toNat != 0x7F)

def skipBlanks (cs : List Char) : List Char := cs.dropWhile isBlank

def lineBreak? : List Char → Option (List Char)
  | '\n' :: rest => some rest
  | '\r' :: '\n' :: rest => some rest
  | _ => none

def skipComment : List Char → List Char
  | '#' :: rest => rest.dropWhile isVisible
  | cs => cs

def endLine? (cs : List Char) : Option (List Char) :=
  match skipComment (skipBlanks cs) with
  | [] => some []
  | cs => lineBreak? cs

def skipSpace (cs : List Char) : Nat → List Char
  | 0 => cs
  | fuel + 1 =>
    match lineBreak? (skipComment (skipBlanks cs)) with
    | some rest => skipSpace rest fuel
    | none => skipComment (skipBlanks cs)

def hexEscape? (length : Nat) (cs : List Char) : Option (Char × List Char) := do
  let digits := cs.take length
  if digits.length < length then none
  let n ← Json.hex? digits
  if (0xD800 ≤ n ∧ n ≤ 0xDFFF) ∨ 0x10FFFF < n then none
  else some (Char.ofNat n, cs.drop length)

def escape? : List Char → Option (Char × List Char)
  | 'b' :: rest => some ('\x08', rest)
  | 't' :: rest => some ('\t', rest)
  | 'n' :: rest => some ('\n', rest)
  | 'f' :: rest => some ('\x0c', rest)
  | 'r' :: rest => some ('\r', rest)
  | 'e' :: rest => some ('\x1b', rest)
  | '"' :: rest => some ('"', rest)
  | '\\' :: rest => some ('\\', rest)
  | 'x' :: rest => hexEscape? 2 rest
  | 'u' :: rest => hexEscape? 4 rest
  | 'U' :: rest => hexEscape? 8 rest
  | _ => none

def continued? (cs : List Char) : Option (List Char) :=
  (lineBreak? (skipBlanks cs)).map
    (fun rest => rest.dropWhile (fun c => isBlank c || c == '\n' || c == '\r'))

def readLineText (quote : Char) (done : List Char) (cs : List Char) :
    Nat → Option (String × List Char)
  | 0 => none
  | fuel + 1 =>
    match cs with
    | [] => none
    | c :: rest =>
      if c = quote then some (String.ofList done.reverse, rest)
      else if c = '\\' ∧ quote = '"' then do
        let (value, rest) ← escape? rest
        readLineText quote (value :: done) rest fuel
      else if isVisible c then readLineText quote (c :: done) rest fuel
      else none

/-- Closes a text of several lines: of more than three quotes the first ones, at most two,
belong to the text. -/
def closeBlock (quote : Char) (done : List Char) (cs : List Char) : String × List Char :=
  let extra := min 2 ((cs.takeWhile (· == quote)).length - 3)
  (String.ofList (List.replicate extra quote ++ done).reverse, cs.drop (extra + 3))

def readBlockText (quote : Char) (done : List Char) (cs : List Char) :
    Nat → Option (String × List Char)
  | 0 => none
  | fuel + 1 =>
    match cs with
    | [] => none
    | c :: rest =>
      if (cs.take 3).length = 3 ∧ (cs.take 3).all (· == quote) then some (closeBlock quote done cs)
      else if c = '\\' ∧ quote = '"' then
        match continued? rest with
        | some rest => readBlockText quote done rest fuel
        | none => do
          let (value, rest) ← escape? rest
          readBlockText quote (value :: done) rest fuel
      else if c = '\r' ∧ rest.head? ≠ some '\n' then none
      else if isVisible c ∨ c = '\n' ∨ c = '\r' then readBlockText quote (c :: done) rest fuel
      else none

def readQuoted (quote : Char) (cs : List Char) : Option (String × List Char) :=
  match cs with
  | a :: b :: c :: rest =>
    if a = quote ∧ b = quote ∧ c = quote then
      let rest := (lineBreak? rest).getD rest
      readBlockText quote [] rest (rest.length + 1)
    else if a = quote then readLineText quote [] (b :: c :: rest) (rest.length + 3)
    else none
  | [a, b] => if a = quote ∧ b = quote then some ("", []) else none
  | _ => none

def readText (cs : List Char) : Option (String × List Char) :=
  (readQuoted '"' cs).orElse (fun _ => readQuoted '\'' cs)

def isKeyChar (c : Char) : Bool := c.isAlphanum || c == '_' || c == '-'

def readKeyPart (cs : List Char) : Option (String × List Char) :=
  match cs with
  | '"' :: rest => readLineText '"' [] rest (rest.length + 1)
  | '\'' :: rest => readLineText '\'' [] rest (rest.length + 1)
  | _ =>
    let name := cs.takeWhile isKeyChar
    if name.isEmpty then none else some (String.ofList name, cs.dropWhile isKeyChar)

def readKey (done : List String) (cs : List Char) : Nat → Option (List String × List Char)
  | 0 => none
  | fuel + 1 => do
    let (part, rest) ← readKeyPart (skipBlanks cs)
    match skipBlanks rest with
    | '.' :: rest => readKey (part :: done) rest fuel
    | rest => some ((part :: done).reverse, rest)

end LintGate.Toml
