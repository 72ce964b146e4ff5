import LintGate.Json.Reader
import LintGate.Yaml.Cursor

/-! Scalars of a YAML text: plain, quoted and block ones. Line breaks inside a scalar fold: a
single one becomes a space, and of several all but the first are kept. -/
namespace LintGate.Yaml

inductive Style where
  | plain
  | singleQuoted
  | doubleQuoted
  | literal
  | folded
deriving DecidableEq, Repr

structure Gap where
  blanks : List Char
  first : List Char
  later : List Char
  broken : Bool
deriving DecidableEq, Repr

namespace Gap

def none : Gap := ⟨[], [], [], false⟩

def text (g : Gap) : List Char :=
  if !g.broken then g.blanks.reverse
  else if g.first = ['\n'] then if g.later.isEmpty then [' '] else g.later.reverse
  else g.first ++ g.later.reverse

def addBlank (g : Gap) (c : Char) : Gap :=
  if g.broken then g else { g with blanks := c :: g.blanks }

def addBreak (g : Gap) (text : List Char) : Gap :=
  if g.broken then { g with later := text ++ g.later }
  else ⟨[], text, g.later, true⟩

end Gap

def readGap (indent : Nat) (g : Gap) (c : Cursor) : Nat → Option (Gap × Cursor)
  | 0 => Option.none
  | fuel + 1 =>
    match c.peek with
    | Option.none => some (g, c)
    | some ch =>
      if isSpace ch then
        -- A tab may not stand in the indentation.
        if g.broken && c.column < indent && ch == '\t' then Option.none
        else readGap indent (g.addBlank ch) c.skip fuel
      else if isBreak ch then
        let (text, next) := c.readBreak
        readGap indent (g.addBreak text) next fuel
      else some (g, c)

def isFlowMark (c : Char) : Bool :=
  c == ',' || c == '[' || c == ']' || c == '\x7b' || c == '\x7d'

def readPlainWord (inFlow : Bool) (done : List Char) (c : Cursor) :
    Nat → Option (List Char × Cursor)
  | 0 => none
  | fuel + 1 =>
    match c.peek with
    | none => some (done, c)
    | some ch =>
      let next := c.peekAt 1
      if endsWord (some ch) then some (done, c)
      else if inFlow && ch == ':' && (next.any (fun n => isFlowMark n || n == '?')) then none
      else if (ch == ':' && endsWord next) || (inFlow && isFlowMark ch) then some (done, c)
      else readPlainWord inFlow (ch :: done) c.skip fuel

/-- A plain scalar, the cursor after the white space that follows it, and whether that white
space holds a line break. Its lines are indented by `indent` columns, outside of flow
collections. -/
def readPlain (inFlow : Bool) (indent : Nat) (done : List Char) (gap : Gap) (c : Cursor) :
    Nat → Option (List Char × Cursor × Bool)
  | 0 => none
  | fuel + 1 =>
    if c.atDocumentMark || c.peek == some '#' then some (done.reverse, c, gap.broken)
    else do
      let (longer, after) ← readPlainWord inFlow (gap.text.reverse ++ done) c (c.rest.length + 1)
      if after.index = c.index then some (done.reverse, c, gap.broken)
      else if !endsWord after.peek || after.peek.isNone then some (longer.reverse, after, false)
      else do
        let (gap, next) ← readGap indent .none after (after.rest.length + 1)
        if !inFlow && next.column < indent then some (longer.reverse, next, gap.broken)
        else readPlain inFlow indent longer gap next fuel

def hexEscape? (c : Cursor) (length : Nat) : Option (Char × Cursor) := do
  let digits := c.rest.take length
  if digits.length < length then none
  let n ← Json.hex? digits
  if (0xD800 ≤ n ∧ n ≤ 0xDFFF) ∨ 0x10FFFF < n then none
  else some (Char.ofNat n, c.skipMany length)

def escape? (c : Cursor) : Option (Char × Cursor) := do
  let code ← c.peek
  let one (n : Nat) : Option (Char × Cursor) := some (Char.ofNat n, c.skip)
  match code with
  | '0' => one 0
  | 'a' => one 7
  | 'b' => one 8
  | 't' => one 9
  | '\t' => one 9
  | 'n' => one 10
  | 'v' => one 11
  | 'f' => one 12
  | 'r' => one 13
  | 'e' => one 27
  | ' ' => one 32
  | '"' => one 34
  | '/' => one 47
  | '\\' => one 92
  | 'N' => one 0x85
  | '_' => one 0xA0
  | 'L' => one 0x2028
  | 'P' => one 0x2029
  | 'x' => hexEscape? c.skip 2
  | 'u' => hexEscape? c.skip 4
  | 'U' => hexEscape? c.skip 8
  | _ => none

def readQuotedWord (single : Bool) (done : List Char) (c : Cursor) :
    Nat → Option (List Char × Cursor × Bool)
  | 0 => none
  | fuel + 1 =>
    match c.peek with
    | none => some (done, c, false)
    | some ch =>
      if endsWord (some ch) then some (done, c, false)
      else if single && ch == '\'' && c.peekAt 1 == some '\'' then
        readQuotedWord single ('\'' :: done) (c.skipMany 2) fuel
      else if ch == (if single then '\'' else '"') then some (done, c, false)
      else if !single && ch == '\\' then
        if (c.peekAt 1).any isBreak then some (done, c.skip.skipBreak, true)
        else match escape? c.skip with
          | none => none
          | some (value, next) => readQuotedWord single (value :: done) next fuel
      else readQuotedWord single (ch :: done) c.skip fuel

def readQuoted (single : Bool) (done : List Char) (c : Cursor) :
    Nat → Option (List Char × Cursor)
  | 0 => none
  | fuel + 1 =>
    if c.atDocumentMark || c.rest.isEmpty then none
    else do
      let (done, c, joined) ← readQuotedWord single done c (c.rest.length + 1)
      if c.peek = some (if single then '\'' else '"') then some (done.reverse, c.skip)
      else do
        let (gap, c) ← readGap 0 { Gap.none with broken := joined } c (c.rest.length + 1)
        readQuoted single (gap.text.reverse ++ done) c fuel

inductive Chomping where
  | clip
  | strip
  | keep
deriving DecidableEq, Repr

def chomping? : Option Char → Option Chomping
  | some '+' => some .keep
  | some '-' => some .strip
  | _ => none

def indentDigit (c : Cursor) : Option (Nat × Cursor) :=
  match c.peek with
  | some ch =>
    if ch == '0' then none
    else if ch.isDigit then some (ch.toNat - '0'.toNat, c.skip)
    else some (0, c)
  | none => some (0, c)

def blockHeader (c : Cursor) : Option (Chomping × Nat × Cursor) :=
  match chomping? c.peek with
  | some chomping => do
    let (indent, c) ← indentDigit c.skip
    some (chomping, indent, c)
  | none => do
    let (indent, c) ← indentDigit c
    if indent = 0 then some (.clip, 0, c)
    else match chomping? c.peek with
      | some chomping => some (chomping, indent, c.skip)
      | none => some (.clip, indent, c)

def readBlockBreaks (indent deepest : Nat) (breaks : List Char) (c : Cursor) :
    Nat → Option (Nat × List Char × Cursor)
  | 0 => none
  | fuel + 1 =>
    let spaces := (c.rest.takeWhile (· == ' ')).length
    let c := c.skipMany (if indent = 0 then spaces else min spaces (indent - c.column))
    let deepest := max deepest c.column
    if (indent = 0 ∨ c.column < indent) ∧ c.peek = some '\t' then none
    else if !c.peek.any isBreak then some (deepest, breaks.reverse, c)
    else
      let (text, next) := c.readBreak
      readBlockBreaks indent deepest (text ++ breaks) next fuel

/-- Lines of a block scalar. `first` is the break before the next line and `breaks` are those of
empty lines after it; `blankBefore` says that the line before starts with a blank. -/
def readBlockLines (folded : Bool) (indent : Nat) (done first breaks : List Char)
    (blankBefore : Bool) (c : Cursor) : Nat → Option (List Char × List Char × List Char × Cursor)
  | 0 => none
  | fuel + 1 =>
    if c.column ≠ indent ∨ c.rest.isEmpty then some (done, first, breaks, c)
    else do
      let blankHere := c.peek.any isSpace
      let folds := folded && first == ['\n'] && !blankBefore && !blankHere
      let joint := if folds then (if breaks.isEmpty then [' '] else []) else first
      let (line, c) := c.takeWhile (fun ch => !isBreak ch)
      let done := line.reverse ++ (joint ++ breaks).reverse ++ done
      let (first, c) := c.readBreak
      let (_, breaks, c) ← readBlockBreaks indent 0 [] c (c.rest.length + 1)
      readBlockLines folded indent done first breaks blankHere c fuel

def readBlock (folded : Bool) (parent : Int) (c : Cursor) : Option (List Char × Cursor) := do
  let (chomping, increment, c) ← blockHeader c
  let c := (c.skipWhile isSpace).skipComment
  if !endsLine c.peek then none
  let c := if c.rest.isEmpty then c else c.skipBreak
  let given := if increment = 0 then 0 else (max parent 0).toNat + increment
  let (deepest, breaks, c) ← readBlockBreaks given 0 [] c (c.rest.length + 1)
  let indent := if given = 0 then max deepest (max (parent + 1) 1).toNat else given
  let (done, first, breaks, c) ←
    readBlockLines folded indent [] [] breaks false c (c.rest.length + 1)
  let tail := match chomping with
    | .strip => []
    | .clip => first
    | .keep => first ++ breaks
  some (done.reverse ++ tail, c)

end LintGate.Yaml
