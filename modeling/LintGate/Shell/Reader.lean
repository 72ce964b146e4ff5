import LintGate.Shell.Script
import LintGate.Text.Cut

/-! Reading scripts. Readers give what they read and the characters after it; `none` means that
the script is malformed. -/
namespace LintGate.Shell

def isMeta (c : Char) : Bool := " \t\n;&|<>()".toList.contains c

def isNameStart (c : Char) : Bool := c.isAlpha || c == '_'

def isNameChar (c : Char) : Bool := c.isAlphanum || c == '_'

def isSpecialName (c : Char) : Bool := c.isDigit || "@*#?$!-".toList.contains c

def takeQuoted (quote : Char) (done : List Char) : List Char → Option (List Char × List Char)
  | [] => none
  | '\\' :: c :: rest =>
    if quote = '\'' then
      if c = '\'' then some ('\'' :: '\\' :: done, rest)
      else takeQuoted quote (c :: '\\' :: done) rest
    else takeQuoted quote (c :: '\\' :: done) rest
  | c :: rest => if c = quote then some (c :: done, rest) else takeQuoted quote (c :: done) rest

def takeBalanced (opening closing : Char) (depth : Nat) (done : List Char) (cs : List Char) :
    Nat → Option (List Char × List Char)
  | 0 => none
  | fuel + 1 =>
    match cs with
    | [] => none
    | '\\' :: c :: rest => takeBalanced opening closing depth (c :: '\\' :: done) rest fuel
    | c :: rest =>
      if c = '\'' ∨ c = '"' then do
        let (done, rest) ← takeQuoted c (c :: done) rest
        takeBalanced opening closing depth done rest fuel
      else if c = opening then takeBalanced opening closing (depth + 1) (c :: done) rest fuel
      else if c = closing then
        if depth = 0 then some (done.reverse, rest)
        else takeBalanced opening closing (depth - 1) (c :: done) rest fuel
      else takeBalanced opening closing depth (c :: done) rest fuel

def takeBackquoted (done : List Char) : List Char → Option (List Char × List Char)
  | [] => none
  | '\\' :: c :: rest =>
    if c = '\\' ∨ c = '\x60' ∨ c = '$' then takeBackquoted (c :: done) rest
    else takeBackquoted (c :: '\\' :: done) rest
  | c :: rest => if c = '\x60' then some (done.reverse, rest) else takeBackquoted (c :: done) rest

def readName (cs : List Char) : Option (List Char × List Char) :=
  match cs with
  | [] => none
  | c :: rest =>
    if isNameStart c then some (cs.takeWhile isNameChar, cs.dropWhile isNameChar)
    else if isSpecialName c then some ([c], rest)
    else none

def operators : List String := [":-", ":=", ":+", ":?", "##", "%%", "-", "=", "+", "?", "#", "%"]

def braced? (inner : List Char) (quoted : Bool) : Option Part :=
  match inner with
  | '#' :: c :: rest => do
    let (name, rest) ← readName (c :: rest)
    if rest.isEmpty then some (.parameter (String.ofList name) "length" "" quoted) else none
  | _ => do
    let (name, rest) ←
      if (inner.takeWhile Char.isDigit).isEmpty then readName inner
      else some (inner.takeWhile Char.isDigit, inner.dropWhile Char.isDigit)
    if rest.isEmpty then some (.parameter (String.ofList name) "" "" quoted)
    else do
      let operator ← operators.find? (fun o => Text.startsWith o.toList rest)
      some (.parameter (String.ofList name) operator
        (String.ofList (rest.drop operator.length)) quoted)

def readDollar (quoted : Bool) (cs : List Char) : Option (Part × List Char) :=
  let fuel := cs.length + 1
  match cs with
  | '(' :: '(' :: rest =>
    match takeBalanced '(' ')' 0 [] rest fuel with
    | some (inner, ')' :: after) => some (.arithmetic (String.ofList inner) quoted, after)
    | _ => do
      let (inner, after) ← takeBalanced '(' ')' 0 [] ('(' :: rest) fuel
      some (.output (String.ofList inner) quoted, after)
  | '(' :: rest => do
    let (inner, after) ← takeBalanced '(' ')' 0 [] rest fuel
    some (.output (String.ofList inner) quoted, after)
  | '\x7b' :: rest => do
    let (inner, after) ← takeBalanced '\x7b' '\x7d' 0 [] rest fuel
    let part ← braced? inner quoted
    some (part, after)
  | _ =>
    match readName cs with
    | some (name, rest) => some (.parameter (String.ofList name) "" "" quoted, rest)
    | none => some (.literal "$" quoted, cs)

def addChar (c : Char) (quoted : Bool) : List Part → List Part
  | .literal text q :: rest =>
    if q = quoted then .literal (text.push c) q :: rest
    else .literal c.toString quoted :: .literal text q :: rest
  | parts => .literal c.toString quoted :: parts

def readDouble (closed : Bool) (done : List Part) (cs : List Char) :
    Nat → Option (List Part × List Char)
  | 0 => none
  | fuel + 1 =>
    match cs with
    | [] => if closed then none else some (done, [])
    | '\\' :: '\n' :: rest => readDouble closed done rest fuel
    | '\\' :: c :: rest =>
      if "$`\"\\".toList.contains c then readDouble closed (addChar c true done) rest fuel
      else readDouble closed (addChar c true (addChar '\\' true done)) rest fuel
    | '$' :: rest => do
      let (part, rest) ← readDollar true rest
      readDouble closed (part :: done) rest fuel
    | c :: rest =>
      if c = '"' ∧ closed then some (done, rest)
      else if c = '\x60' then do
        let (source, rest) ← takeBackquoted [] rest
        readDouble closed (.output (String.ofList source) true :: done) rest fuel
      else readDouble closed (addChar c true done) rest fuel

def readWordFrom (whole : Bool) (done : List Part) (cs : List Char) :
    Nat → Option (Word × List Char)
  | 0 => none
  | fuel + 1 =>
    match cs with
    | [] => some (done.reverse, [])
    | '\\' :: '\n' :: rest => readWordFrom whole done rest fuel
    | '\\' :: c :: rest => readWordFrom whole (addChar c true done) rest fuel
    | '\'' :: rest => do
      let text := rest.takeWhile (· != '\'')
      let '\'' :: after := rest.dropWhile (· != '\'') | none
      readWordFrom whole (.literal (String.ofList text) true :: done) after fuel
    | '"' :: rest => do
      let (done, rest) ← readDouble true (.literal "" true :: done) rest (rest.length + 1)
      readWordFrom whole done rest fuel
    | '$' :: rest => do
      let (part, rest) ← readDollar false rest
      readWordFrom whole (part :: done) rest fuel
    | c :: rest =>
      if c = '\x60' then do
        let (source, rest) ← takeBackquoted [] rest
        readWordFrom whole (.output (String.ofList source) false :: done) rest fuel
      else if !whole && isMeta c then some (done.reverse, cs)
      else readWordFrom whole (addChar c false done) rest fuel

def readWord (cs : List Char) : Option (Word × List Char) :=
  readWordFrom false [] cs (cs.length + 1)

def skipBlanks : List Char → List Char
  | ' ' :: rest => skipBlanks rest
  | '\t' :: rest => skipBlanks rest
  | '\\' :: '\n' :: rest => skipBlanks rest
  | '#' :: rest => rest.dropWhile (· != '\n')
  | cs => cs

def skipLines (cs : List Char) : Nat → List Char
  | 0 => cs
  | fuel + 1 =>
    match skipBlanks cs with
    | '\n' :: rest => skipLines rest fuel
    | rest => rest

def toCommand (cs : List Char) : List Char := skipLines cs cs.length

def peekWord (cs : List Char) : String := String.ofList (cs.takeWhile (fun c => !isMeta c))

def expect? (word : String) (cs : List Char) : Option (List Char) :=
  let cs := toCommand cs
  if peekWord cs = word then some (cs.drop word.length) else none

def closers : List String := ["then", "elif", "else", "fi", "do", "done", "esac", "\x7d"]

def atEnd (cs : List Char) : Bool :=
  match cs with
  | [] => true
  | ')' :: _ => true
  | ';' :: ';' :: _ => true
  | _ => closers.contains (peekWord cs)

def takeDocument (delimiter : List Char) (done : List Char) (cs : List Char) :
    Nat → List Char × List Char
  | 0 => (done, cs)
  | fuel + 1 =>
    if cs.isEmpty then (done, [])
    else
      let line := cs.takeWhile (· != '\n')
      let rest := (cs.dropWhile (· != '\n')).drop 1
      if line = delimiter then (done, rest)
      else takeDocument delimiter (done ++ line ++ ['\n']) rest fuel

def plainText (word : Word) : String × Bool :=
  word.foldl (fun (text, quoted) part =>
    match part with
    | .literal s q => (text ++ s, quoted || q)
    | _ => (text, quoted)) ("", false)

def readDocument (descriptor : Nat) (cs : List Char) : Option (Redirect × List Char) := do
  let (word, rest) ← readWord (skipBlanks cs)
  let (delimiter, quoted) := plainText word
  let line := rest.takeWhile (· != '\n')
  let later := (rest.dropWhile (· != '\n')).drop 1
  let (body, later) := takeDocument delimiter.toList [] later (later.length + 1)
  let parts ← if quoted then some [.literal (String.ofList body) true]
    else (readDouble false [] body (body.length + 1)).map (fun (parts, _) => parts.reverse)
  some (.fromText descriptor parts, line ++ '\n' :: later)

def readRedirect (given : Option Nat) (cs : List Char) : Option (Redirect × List Char) := do
  let target (cs : List Char) := readWord (skipBlanks cs)
  match cs with
  | '<' :: '<' :: rest => readDocument (given.getD 0) rest
  | '<' :: '&' :: rest => (target rest).map (fun (w, rest) => (.copy (given.getD 0) w, rest))
  | '<' :: rest => (target rest).map (fun (w, rest) => (.fromFile (given.getD 0) w, rest))
  | '>' :: '>' :: rest => (target rest).map (fun (w, rest) => (.toFile (given.getD 1) true w, rest))
  | '>' :: '&' :: rest => (target rest).map (fun (w, rest) => (.copy (given.getD 1) w, rest))
  | '>' :: '|' :: rest =>
    (target rest).map (fun (w, rest) => (.toFile (given.getD 1) false w, rest))
  | '>' :: rest => (target rest).map (fun (w, rest) => (.toFile (given.getD 1) false w, rest))
  | _ => none

def redirect? (cs : List Char) : Option (Option (Redirect × List Char)) :=
  let digits := cs.takeWhile Char.isDigit
  let rest := cs.dropWhile Char.isDigit
  if rest.head? = some '<' ∨ rest.head? = some '>' then
    let given := if digits.isEmpty then none else (String.ofList digits).toNat?
    (readRedirect given rest).map some
  else some none

def readRedirects (done : List Redirect) (cs : List Char) :
    Nat → Option (List Redirect × List Char)
  | 0 => none
  | fuel + 1 => do
    match ← redirect? (skipBlanks cs) with
    | some (r, rest) => readRedirects (r :: done) rest fuel
    | none => some (done.reverse, cs)

def assignment? (word : Word) : Option (String × Word) :=
  match word with
  | .literal text false :: rest => do
    let (name, value) ← Text.cut? '=' text.toList
    match name with
    | c :: more =>
      if isNameStart c ∧ more.all isNameChar then
        let rest := if value.isEmpty then rest else .literal (String.ofList value) false :: rest
        some (String.ofList name, rest)
      else none
    | [] => none
  | _ => none

def readSimple (line : Nat) (assignments : List (String × Word)) (words : List Word)
    (redirects : List Redirect) (cs : List Char) : Nat → Option (Script × List Char)
  | 0 => none
  | fuel + 1 => do
    let cs := skipBlanks cs
    match ← redirect? cs with
    | some (r, rest) => readSimple line assignments words (r :: redirects) rest fuel
    | none =>
      if cs.isEmpty ∨ cs.head?.any isMeta then
        if assignments.isEmpty ∧ words.isEmpty ∧ redirects.isEmpty then none
        else some (.simple line assignments.reverse words.reverse redirects.reverse, cs)
      else
        let (word, rest) ← readWord cs
        match assignment? word, words with
        | some a, [] => readSimple line (a :: assignments) [] redirects rest fuel
        | _, _ => readSimple line assignments (word :: words) redirects rest fuel

def readWords (done : List Word) (cs : List Char) : Nat → Option (List Word × List Char)
  | 0 => none
  | fuel + 1 =>
    let cs := skipBlanks cs
    if cs.isEmpty ∨ cs.head?.any isMeta then some (done.reverse, cs)
    else do
      let (word, rest) ← readWord cs
      readWords (word :: done) rest fuel

def readPatterns (done : List Word) (cs : List Char) : Nat → Option (List Word × List Char)
  | 0 => none
  | fuel + 1 => do
    let (word, rest) ← readWord (skipBlanks cs)
    match skipBlanks rest with
    | '|' :: rest => readPatterns (word :: done) rest fuel
    | ')' :: rest => some ((word :: done).reverse, rest)
    | _ => none

def skipSeparator (cs : List Char) : List Char :=
  match skipBlanks cs with
  | ';' :: ';' :: rest => ';' :: ';' :: rest
  | ';' :: rest => rest
  | rest => rest

mutual

/-- Commands up to a word or a bracket that closes them. `total` is the number of line breaks in
the whole script, from which lines are counted. -/
def readList (total : Nat) (done : List Script) (cs : List Char) (fuel : Nat) :
    Option (Script × List Char) :=
  match fuel with
  | 0 => none
  | fuel + 1 =>
    let cs := toCommand cs
    if atEnd cs then some (.sequence done.reverse, cs)
    else do
      let (item, rest) ← readChain total cs fuel
      match skipBlanks rest with
      | '&' :: rest => readList total (.background item :: done) rest fuel
      | ';' :: ';' :: rest => some (.sequence (item :: done).reverse, ';' :: ';' :: rest)
      | ';' :: rest => readList total (item :: done) rest fuel
      | '\n' :: rest => readList total (item :: done) rest fuel
      | rest => if atEnd rest then some (.sequence (item :: done).reverse, rest) else none
termination_by structural fuel

def readChain (total : Nat) (cs : List Char) (fuel : Nat) : Option (Script × List Char) :=
  match fuel with
  | 0 => none
  | fuel + 1 => do
    let (first, rest) ← readPipeline total cs fuel
    readChainFrom total first rest fuel
termination_by structural fuel

def readChainFrom (total : Nat) (left : Script) (cs : List Char) (fuel : Nat) :
    Option (Script × List Char) :=
  match fuel with
  | 0 => none
  | fuel + 1 =>
    match skipBlanks cs with
    | '&' :: '&' :: rest => do
      let (right, rest) ← readPipeline total (toCommand rest) fuel
      readChainFrom total (.both left right) rest fuel
    | '|' :: '|' :: rest => do
      let (right, rest) ← readPipeline total (toCommand rest) fuel
      readChainFrom total (.either left right) rest fuel
    | _ => some (left, cs)
termination_by structural fuel

def readPipeline (total : Nat) (cs : List Char) (fuel : Nat) : Option (Script × List Char) :=
  match fuel with
  | 0 => none
  | fuel + 1 =>
    if peekWord cs = "!" then do
      let (stages, rest) ← readStages total [] (toCommand (cs.drop 1)) fuel
      some (.pipeline true stages, rest)
    else do
      let (stages, rest) ← readStages total [] cs fuel
      match stages with
      | [only] => some (only, rest)
      | stages => some (.pipeline false stages, rest)
termination_by structural fuel

def readStages (total : Nat) (done : List Script) (cs : List Char) (fuel : Nat) :
    Option (List Script × List Char) :=
  match fuel with
  | 0 => none
  | fuel + 1 => do
    let (stage, rest) ← readCommand total cs fuel
    match skipBlanks rest with
    | '|' :: '|' :: _ => some ((stage :: done).reverse, rest)
    | '|' :: rest => readStages total (stage :: done) (toCommand rest) fuel
    | _ => some ((stage :: done).reverse, rest)
termination_by structural fuel

def readCommand (total : Nat) (cs : List Char) (fuel : Nat) : Option (Script × List Char) :=
  match fuel with
  | 0 => none
  | fuel + 1 => do
    match ← readCompound total cs fuel with
    | some (body, rest) =>
      let (redirects, rest) ← readRedirects [] rest (rest.length + 1)
      some (if redirects.isEmpty then body else .redirected body redirects, rest)
    | none =>
      let name := peekWord cs
      match name.toList, skipBlanks (cs.drop name.length) with
      | c :: more, '(' :: rest =>
        if isNameStart c ∧ more.all isNameChar then
          let ')' :: rest := skipBlanks rest | none
          let (body, rest) ← readCommand total (toCommand rest) fuel
          some (.function name body, rest)
        else readSimple (1 + total - cs.count '\n') [] [] [] cs (cs.length + 1)
      | _, _ => readSimple (1 + total - cs.count '\n') [] [] [] cs (cs.length + 1)
termination_by structural fuel

def readCompound (total : Nat) (cs : List Char) (fuel : Nat) :
    Option (Option (Script × List Char)) :=
  match fuel with
  | 0 => none
  | fuel + 1 =>
    match cs with
    | '(' :: rest => do
      let (body, rest) ← readList total [] rest fuel
      let ')' :: rest := rest | none
      some (some (.subshell body, rest))
    | _ =>
      match peekWord cs with
      | "\x7b" => do
        let (body, rest) ← readList total [] (cs.drop 1) fuel
        let rest ← expect? "\x7d" rest
        some (some (body, rest))
      | "if" => (readBranches total [] (cs.drop 2) fuel).map some
      | "while" => (readLoop total false (cs.drop 5) fuel).map some
      | "until" => (readLoop total true (cs.drop 5) fuel).map some
      | "for" => (readEach total (cs.drop 3) fuel).map some
      | "case" => do
        let (word, rest) ← readWord (skipBlanks (cs.drop 4))
        let rest ← expect? "in" rest
        let (arms, rest) ← readArms total [] rest fuel
        some (some (.choice word arms, rest))
      | _ => some none
termination_by structural fuel

def readBranches (total : Nat) (done : List (Script × Script)) (cs : List Char) (fuel : Nat) :
    Option (Script × List Char) :=
  match fuel with
  | 0 => none
  | fuel + 1 => do
    let (condition, rest) ← readList total [] cs fuel
    let rest ← expect? "then" rest
    let (body, rest) ← readList total [] rest fuel
    let done := (condition, body) :: done
    match peekWord rest with
    | "elif" => readBranches total done (rest.drop 4) fuel
    | "else" =>
      let (otherwise, rest) ← readList total [] (rest.drop 4) fuel
      let rest ← expect? "fi" rest
      some (.conditional done.reverse otherwise, rest)
    | _ =>
      let rest ← expect? "fi" rest
      some (.conditional done.reverse .nothing, rest)
termination_by structural fuel

def readLoop (total : Nat) (stopsWhen : Bool) (cs : List Char) (fuel : Nat) :
    Option (Script × List Char) :=
  match fuel with
  | 0 => none
  | fuel + 1 => do
    let (condition, rest) ← readList total [] cs fuel
    let (body, rest) ← readBody total rest fuel
    some (.loop stopsWhen condition body, rest)
termination_by structural fuel

def readBody (total : Nat) (cs : List Char) (fuel : Nat) : Option (Script × List Char) :=
  match fuel with
  | 0 => none
  | fuel + 1 => do
    let rest ← expect? "do" cs
    let (body, rest) ← readList total [] rest fuel
    let rest ← expect? "done" rest
    some (body, rest)
termination_by structural fuel

def readEach (total : Nat) (cs : List Char) (fuel : Nat) : Option (Script × List Char) :=
  match fuel with
  | 0 => none
  | fuel + 1 => do
    let cs := skipBlanks cs
    let (name, rest) ← readName cs
    let (words, rest) ← match expect? "in" rest with
      | some rest => (readWords [] rest (rest.length + 1)).map (fun (ws, rest) => (some ws, rest))
      | none => some (none, rest)
    let (body, rest) ← readBody total (skipSeparator rest) fuel
    some (.each (String.ofList name) words body, rest)
termination_by structural fuel

def readArms (total : Nat) (done : List (List Word × Script)) (cs : List Char) (fuel : Nat) :
    Option (List (List Word × Script) × List Char) :=
  match fuel with
  | 0 => none
  | fuel + 1 =>
    match expect? "esac" cs with
    | some rest => some (done.reverse, rest)
    | none => do
      let cs := toCommand cs
      let cs := if cs.head? = some '(' then cs.tail else cs
      let (patterns, rest) ← readPatterns [] cs (cs.length + 1)
      let (body, rest) ← readList total [] rest fuel
      match toCommand rest with
      | ';' :: ';' :: rest => readArms total ((patterns, body) :: done) rest fuel
      | rest => do
        let rest ← expect? "esac" rest
        some (((patterns, body) :: done).reverse, rest)
termination_by structural fuel

end

def Script.parse? (source : String) : Option Script :=
  let cs := source.toList
  match readList (cs.count '\n') [] cs (8 * cs.length + 16) with
  | some (script, []) => some script
  | _ => none

def wordOf (source : String) (quoted : Bool) : Word :=
  let cs := source.toList
  if quoted then
    ((readDouble false [] cs (cs.length + 1)).map (fun (parts, _) => parts.reverse)).getD []
  else ((readWordFrom true [] cs (cs.length + 1)).map (·.1)).getD []

end LintGate.Shell
