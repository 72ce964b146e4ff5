import LintGate.Yaml.Scalar

/-! Tokens of a YAML text. Indentation shows as tokens that open and close block collections,
and a key that is followed by a colon on its line gets a mark of its own before it. -/
namespace LintGate.Yaml

inductive Token where
  | version (major minor : Nat)
  | tagHandle (handle start : String)
  | documentStart
  | documentEnd
  | blockSequence
  | blockMapping
  | blockEnd
  | flowSequence
  | flowSequenceEnd
  | flowMapping
  | flowMappingEnd
  | blockEntry
  | flowEntry
  | key
  | value
  | alias (name : String)
  | anchor (name : String)
  | tag (handle suffix : String)
  | scalar (text : String) (style : Style)
deriving DecidableEq, Repr

/-- A place where a key may have started: the number of tokens before it and its position. A
required key is one whose column only a key can have. -/
structure PendingKey where
  required : Bool
  number : Nat
  index : Nat
  line : Nat
  column : Nat
deriving DecidableEq, Repr

/-- A scanner between tokens. Tokens are last first; `keys` holds a possible key for each open
flow collection, innermost first, and one for the block around them. -/
structure Scanner where
  cursor : Cursor
  tokens : List Token
  keys : List (Option PendingKey)
  keyAllowed : Bool
  indent : Int
  indents : List Int
deriving DecidableEq, Repr

namespace Scanner

def start (text : List Char) : Scanner := ⟨.start text, [], [none], true, -1, []⟩

def inFlow (s : Scanner) : Bool := 1 < s.keys.length

def push (s : Scanner) (t : Token) : Scanner := { s with tokens := t :: s.tokens }

def insertAt (s : Scanner) (number : Nat) (t : Token) : Scanner :=
  let later := s.tokens.length - number
  { s with tokens := s.tokens.take later ++ t :: s.tokens.drop later }

def closeBlocks (column : Int) : Int → List Int → List Token → Int × List Int × List Token
  | indent, [], tokens => (indent, [], tokens)
  | indent, outer :: indents, tokens =>
    if column < indent then closeBlocks column outer indents (.blockEnd :: tokens)
    else (indent, outer :: indents, tokens)

def unroll (s : Scanner) (column : Int) : Scanner :=
  if s.inFlow then s
  else
    let (indent, indents, tokens) := closeBlocks column s.indent s.indents s.tokens
    { s with indent := indent, indents := indents, tokens := tokens }

def roll (s : Scanner) (column number : Nat) (t : Token) : Scanner :=
  if s.inFlow ∨ (column : Int) ≤ s.indent then s
  else { s.insertAt number t with indent := column, indents := s.indent :: s.indents }

def dropKey (s : Scanner) : Option Scanner :=
  match s.keys with
  | some key :: outer => if key.required then none else some { s with keys := none :: outer }
  | _ => some s

def saveKey (s : Scanner) : Option Scanner :=
  if !s.keyAllowed then some s
  else do
    let s ← s.dropKey
    let c := s.cursor
    let required := !s.inFlow && s.indent == (c.column : Int)
    let key : PendingKey := ⟨required, s.tokens.length, c.index, c.line, c.column⟩
    some { s with keys := some key :: s.keys.tail }

def maxKeyLength : Nat := 1024

def dropStale (s : Scanner) : Option Scanner := do
  let keys ← s.keys.mapM (fun key =>
    match key with
    | none => some none
    | some k =>
      if k.line < s.cursor.line ∨ k.index + maxKeyLength < s.cursor.index then
        if k.required then none else some none
      else some (some k))
  some { s with keys := keys }

def skipToToken (s : Scanner) : Nat → Scanner
  | 0 => s
  | fuel + 1 =>
    let c := s.cursor
    let c := if c.index = 0 ∧ c.peek = some (Char.ofNat 0xFEFF) then c.skip else c
    let tabs := s.inFlow || !s.keyAllowed
    let c := (c.skipWhile (fun ch => ch == ' ' || (tabs && ch == '\t'))).skipComment
    if c.peek.any isBreak then
      skipToToken { s with cursor := c.skipBreak, keyAllowed := s.keyAllowed || !s.inFlow } fuel
    else { s with cursor := c }

def withCursor (s : Scanner) (c : Cursor) : Scanner := { s with cursor := c }

def allowKey (s : Scanner) (allowed : Bool) : Scanner := { s with keyAllowed := allowed }

def mark (s : Scanner) (t : Token) : Scanner := (s.push t).withCursor s.cursor.skip

def closeDocument (s : Scanner) : Option Scanner := do
  let s ← (s.unroll (-1)).dropKey
  some (s.allowKey false)

def openFlow (s : Scanner) (t : Token) : Option Scanner := do
  let s ← s.saveKey
  some (({ s with keys := none :: s.keys }.allowKey true).mark t)

def closeFlow (s : Scanner) (t : Token) : Option Scanner := do
  let s ← s.dropKey
  let s := if s.inFlow then { s with keys := s.keys.tail } else s
  some ((s.allowKey false).mark t)

def flowEntry (s : Scanner) : Option Scanner := do
  let s ← s.dropKey
  some ((s.allowKey true).mark .flowEntry)

def blockEntry (s : Scanner) : Option Scanner := do
  if !s.inFlow ∧ !s.keyAllowed then none
  let s ← (s.roll s.cursor.column s.tokens.length .blockSequence).dropKey
  some ((s.allowKey true).mark .blockEntry)

def explicitKey (s : Scanner) : Option Scanner := do
  if !s.inFlow ∧ !s.keyAllowed then none
  let s ← (s.roll s.cursor.column s.tokens.length .blockMapping).dropKey
  some ((s.allowKey (!s.inFlow)).mark .key)

def valueMark (s : Scanner) : Option Scanner :=
  match s.keys with
  | some key :: outer =>
    let s := (s.insertAt key.number .key).roll key.column key.number .blockMapping
    some (({ s with keys := none :: outer }.allowKey false).mark .value)
  | _ =>
    if s.inFlow then some ((s.allowKey false).mark .value)
    else if !s.keyAllowed then none
    else some (((s.roll s.cursor.column s.tokens.length .blockMapping).allowKey true).mark .value)

def readName (c : Cursor) : Option (String × Cursor) :=
  let (name, c) := c.takeWhile isWordChar
  let ends := endsWord c.peek || c.peek.any (fun ch => "?:,]\x7d%@`".toList.contains ch)
  if name.isEmpty ∨ !ends then none else some (String.ofList name, c)

def isUriChar (c : Char) : Bool := isWordChar c || ";/?:@&=+$.!~*'()".toList.contains c

def percentByte? : List Char → Option (UInt8 × List Char)
  | '%' :: a :: b :: rest => (Json.hex? [a, b]).map (fun n => (n.toUInt8, rest))
  | _ => none

def readUri (wide : Bool) (done : ByteArray) (c : Cursor) : Nat → Option (String × Cursor)
  | 0 => none
  | fuel + 1 =>
    match c.peek with
    | none => (String.fromUTF8? done).map (·, c)
    | some ch =>
      if ch == '%' then do
        let (byte, _) ← percentByte? c.rest
        readUri wide (done.push byte) (c.skipMany 3) fuel
      else if isUriChar ch || (wide && (ch == ',' || ch == '[' || ch == ']')) then
        readUri wide (done ++ ch.toString.toUTF8) c.skip fuel
      else (String.fromUTF8? done).map (·, c)

def readHandle (c : Cursor) : Option (List Char × Cursor) :=
  if c.peek ≠ some '!' then none
  else
    let (name, after) := c.skip.takeWhile isWordChar
    if after.peek = some '!' then some ('!' :: name ++ ['!'], after.skip)
    else some ('!' :: name, after)

def readTag (s : Scanner) : Option (Token × Cursor) := do
  let c := s.cursor
  let fuel := c.rest.length + 1
  let (t, c) ←
    if c.peekAt 1 = some '<' then do
      let (suffix, c) ← readUri true .empty (c.skipMany 2) fuel
      if suffix.isEmpty ∨ c.peek ≠ some '>' then none
      else some (Token.tag "" suffix, c.skip)
    else do
      let (handle, after) ← readHandle c
      if 1 < handle.length ∧ handle.getLast? = some '!' then do
        let (suffix, after) ← readUri false .empty after fuel
        if suffix.isEmpty then none else some (Token.tag (String.ofList handle) suffix, after)
      else do
        let (suffix, after) ← readUri false (String.ofList handle.tail).toUTF8 after fuel
        if suffix.isEmpty then some (Token.tag "" "!", after)
        else some (Token.tag "!" suffix, after)
  if endsWord c.peek ∨ (s.inFlow ∧ c.peek = some ',') then some (t, c) else none

def readVersionNumber (c : Cursor) : Option (Nat × Cursor) :=
  let (digits, c) := c.takeWhile Char.isDigit
  if 9 < digits.length then none else (Text.digits? digits).map (·, c)

def readDirective (c : Cursor) : Option (Token × Cursor) := do
  let (name, c) := c.takeWhile isWordChar
  if !endsWord c.peek then none
  let c := c.skipWhile isSpace
  if name = "YAML".toList then
    let (major, c) ← readVersionNumber c
    if c.peek ≠ some '.' then none
    let (minor, c) ← readVersionNumber c.skip
    some (.version major minor, c)
  else if name = "TAG".toList then
    let (handle, c) ← readHandle c
    if handle ≠ ['!'] ∧ (handle.length < 2 ∨ handle.getLast? ≠ some '!') then none
    if !c.peek.any isSpace then none
    let c := c.skipWhile isSpace
    let (start, c) ← readUri true .empty c (c.rest.length + 1)
    if start.isEmpty ∨ !endsWord c.peek then none
    some (.tagHandle (String.ofList handle) start, c)
  else none

def directive (s : Scanner) : Option Scanner := do
  let s ← s.closeDocument
  let (t, c) ← readDirective s.cursor.skip
  let c := (c.skipWhile isSpace).skipComment
  if !endsLine c.peek then none
  some ((s.push t).withCursor (if c.rest.isEmpty then c else c.skipBreak))

def documentMark (s : Scanner) (t : Token) : Option Scanner := do
  let s ← s.closeDocument
  some ((s.push t).withCursor (s.cursor.skipMany 3))

def property (s : Scanner) (read : Scanner → Option (Token × Cursor)) : Option Scanner := do
  let s ← s.saveKey
  let (t, c) ← read s
  some (((s.allowKey false).push t).withCursor c)

def blockScalar (s : Scanner) (folded : Bool) : Option Scanner := do
  let s ← s.dropKey
  let (text, c) ← readBlock folded s.indent s.cursor.skip
  let t := Token.scalar (String.ofList text) (if folded then .folded else .literal)
  some (((s.allowKey true).push t).withCursor c)

def quotedScalar (s : Scanner) (single : Bool) : Option Scanner := do
  let s ← s.saveKey
  let c := s.cursor.skip
  let (text, c) ← readQuoted single [] c (c.rest.length + 1)
  let t := Token.scalar (String.ofList text) (if single then .singleQuoted else .doubleQuoted)
  some (((s.allowKey false).push t).withCursor c)

def plainScalar (s : Scanner) : Option Scanner := do
  let s ← s.saveKey
  let c := s.cursor
  let (text, c, broken) ← readPlain s.inFlow (s.indent + 1).toNat [] .none c (c.rest.length + 1)
  some (((s.allowKey broken).push (.scalar (String.ofList text) .plain)).withCursor c)

def startsPlain (s : Scanner) (ch : Char) (next : Option Char) : Bool :=
  !"-?:,[]\x7b\x7d#&*!|>'\"%@`".toList.contains ch || (ch == '-' && !next.any isSpace) ||
    (!s.inFlow && (ch == '?' || ch == ':') && !endsWord next)

def token (s : Scanner) (ch : Char) : Option Scanner :=
  let c := s.cursor
  let next := c.peekAt 1
  if c.column = 0 ∧ ch = '%' then s.directive
  else if c.atMark '-' then s.documentMark .documentStart
  else if c.atMark '.' then s.documentMark .documentEnd
  else if ch = '[' then s.openFlow .flowSequence
  else if ch = '\x7b' then s.openFlow .flowMapping
  else if ch = ']' then s.closeFlow .flowSequenceEnd
  else if ch = '\x7d' then s.closeFlow .flowMappingEnd
  else if ch = ',' then s.flowEntry
  else if ch = '-' ∧ endsWord next then s.blockEntry
  else if ch = '?' ∧ (s.inFlow ∨ endsWord next) then s.explicitKey
  else if ch = ':' ∧ (s.inFlow ∨ endsWord next) then s.valueMark
  else if ch = '*' then
    s.property (fun s => (readName s.cursor.skip).map (fun (name, c) => (.alias name, c)))
  else if ch = '&' then
    s.property (fun s => (readName s.cursor.skip).map (fun (name, c) => (.anchor name, c)))
  else if ch = '!' then s.property readTag
  else if ch = '|' ∧ !s.inFlow then s.blockScalar false
  else if ch = '>' ∧ !s.inFlow then s.blockScalar true
  else if ch = '\'' then s.quotedScalar true
  else if ch = '"' then s.quotedScalar false
  else if s.startsPlain ch next then s.plainScalar
  else none

def scan (s : Scanner) : Nat → Option (List Token)
  | 0 => none
  | fuel + 1 => do
    let s ← (s.skipToToken (s.cursor.rest.length + 1)).dropStale
    let s := s.unroll s.cursor.column
    match s.cursor.peek with
    | none =>
      let s ← s.closeDocument
      some s.tokens.reverse
    | some ch =>
      let s ← s.token ch
      scan s fuel

end Scanner

def tokens? (text : String) : Option (List Token) :=
  let cs := text.toList
  if cs.all isAllowed then (Scanner.start cs).scan (cs.length + 1) else none

end LintGate.Yaml
