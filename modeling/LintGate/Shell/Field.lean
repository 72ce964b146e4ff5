import LintGate.Shell.Machine

/-! Fields: what the words of a command become. -/
namespace LintGate.Shell

inductive Fragment where
  | text (p : Pattern)
  | cut
deriving DecidableEq, Repr

def Fragment.whole (text : String) (quoted : Bool) : Fragment := .text (.ofText text quoted)

def splitFields (separators : List Char) (cs : List Char) : List Fragment :=
  let runs := Text.pieces separators.contains cs
  let isWhite (c : Char) := c == ' ' || c == '\t' || c == '\n'
  if cs.isEmpty then []
  else if separators.all isWhite then
    (runs.map (fun run => if run.isEmpty then [Fragment.cut] else
      [.text (run.map (·, false))])).intersperse [.cut] |>.flatten
  else (runs.map (fun run => [Fragment.text (run.map (·, false))])).intersperse [.cut] |>.flatten

def assemble : Option Pattern → List Fragment → List Pattern
  | none, [] => []
  | some field, [] => [field]
  | none, .cut :: rest => assemble none rest
  | some field, .cut :: rest => field :: assemble none rest
  | field, .text p :: rest => assemble (some (field.getD [] ++ p)) rest

def patternOf (fragments : List Fragment) : Pattern :=
  fragments.flatMap (fun
    | .text p => p
    | .cut => [(' ', false)])

def patternSegments : Pattern → List Pattern
  | [] => [[]]
  | (c, q) :: rest =>
    if c = '/' then [] :: patternSegments rest
    else match patternSegments rest with
      | first :: more => ((c, q) :: first) :: more
      | [] => [[(c, q)]]

def Machine.follow (m : Machine) (place : Place) (path : String) :
    List Pattern → List String
  | [] => [path]
  | segment :: rest =>
    let sep := if rest.isEmpty then "" else "/"
    let directories (found : String) : List String :=
      match m.tree.nodeAt? (place.down found) with
      | some .directory => m.follow (place.down found) (path ++ found ++ sep) rest
      | some (.file ..) => if rest.isEmpty then [path ++ found] else []
      | none => []
    if segment.isActive then
      ((m.childrenOf place).filter (fun name =>
        (!name.startsWith "." || segment.head?.any (fun (c, _) => c == '.')) &&
          segment.accepts name.toList)).flatMap directories
    else match segment.text with
      | "." | "" => m.follow place (path ++ segment.text ++ sep) rest
      | ".." => m.follow place.up (path ++ ".." ++ sep) rest
      | name => directories name

def Machine.globbed (m : Machine) (field : Pattern) : List String :=
  let isAbsolute := field.head?.any (fun (c, _) => c == '/')
  if !field.isActive || isAbsolute then [field.text]
  else
    let found := m.follow m.directory "" (patternSegments field)
    if found.isEmpty then [field.text] else found

def Machine.special? (m : Machine) (name : String) : Option String :=
  match name with
  | "?" => some (toString m.status)
  | "#" => some (toString m.arguments.length)
  | "$" => some (toString (1000 + m.depth))
  | "-" => some (if m.strict then "e" else "")
  | "!" => some ""
  | "*" | "@" => if m.arguments.isEmpty then none else some (Text.join " " m.arguments)
  | _ => none

def Machine.parameter? (m : Machine) (name : String) : Option String :=
  match inBase? 10 name.toList with
  | some 0 => some m.name
  | some n => m.arguments[n - 1]?
  | none => (m.special? name).or (m.value? name)

def Machine.separators (m : Machine) : List Char := ((m.value? "IFS").getD " \t\n").toList

def outputText (bytes : ByteArray) : String :=
  String.ofList ((Text.lossy bytes).toList.reverse.dropWhile (· == '\n')).reverse

def Machine.unaryTest? (m : Machine) (operator operand : String) : Option Bool :=
  let node? : Option Node := match m.locate operand with
    | .ok place => m.tree.nodeAt? place
    | .error _ => none
  match operator with
  | "-n" => some !operand.isEmpty
  | "-z" => some operand.isEmpty
  | "-e" | "-r" | "-w" => some (node?.isSome || operand.startsWith "/dev/")
  | "-f" => some (node?.any (fun n => n matches .file ..))
  | "-d" => some (node?.any (fun n => n matches .directory))
  | "-x" => some (node?.any (fun n => n matches .file _ true || n matches .directory))
  | "-s" => some (node?.any (fun
    | .file bytes _ => !bytes.isEmpty
    | .directory => true))
  | "-L" | "-h" | "-p" | "-S" | "-b" | "-c" | "-t" => some false
  | _ => none

def compareTest? (left operator right : String) : Option (Except String Bool) :=
  let numbers (f : Int → Int → Bool) : Option (Except String Bool) :=
    match signedConstant? left, signedConstant? right with
    | some a, some b => some (.ok (f a b))
    | none, _ => some (.error left)
    | _, none => some (.error right)
  match operator with
  | "=" | "==" => some (.ok (left == right))
  | "!=" => some (.ok (left != right))
  | "<" => some (.ok (decide (left < right)))
  | ">" => some (.ok (decide (right < left)))
  | "-eq" => numbers (· == ·)
  | "-ne" => numbers (· != ·)
  | "-lt" => numbers (fun a b => decide (a < b))
  | "-le" => numbers (fun a b => decide (a ≤ b))
  | "-gt" => numbers (fun a b => decide (b < a))
  | "-ge" => numbers (fun a b => decide (b ≤ a))
  | _ => none

mutual

def Machine.testPrimary (m : Machine) (args : List String) (fuel : Nat) :
    Except String (Bool × List String) :=
  match fuel with
  | 0 => .error "argument expected"
  | fuel + 1 =>
    let comparison := match args with
      | a :: o :: b :: rest => (compareTest? a o b).map (·, rest)
      | _ => none
    match comparison, args with
    | some (.ok result, rest), _ => .ok (result, rest)
    | some (.error operand, _), _ => .error ("Illegal number: " ++ operand)
    | none, "!" :: rest => do
      let (result, rest) ← m.testPrimary rest fuel
      .ok (!result, rest)
    | none, "(" :: rest => do
      let (result, rest) ← m.testEither rest fuel
      let ")" :: rest := rest | .error "closing paren expected"
      .ok (result, rest)
    | none, o :: a :: rest =>
      match m.unaryTest? o a with
      | some result => .ok (result, rest)
      | none => .ok (!o.isEmpty, a :: rest)
    | none, [a] => .ok (!a.isEmpty, [])
    | none, [] => .ok (false, [])
termination_by structural fuel

def Machine.testBoth (m : Machine) (args : List String) (fuel : Nat) :
    Except String (Bool × List String) :=
  match fuel with
  | 0 => .error "argument expected"
  | fuel + 1 => do
    let (left, rest) ← m.testPrimary args fuel
    match rest with
    | "-a" :: rest =>
      let (right, rest) ← m.testBoth rest fuel
      .ok (left && right, rest)
    | _ => .ok (left, rest)
termination_by structural fuel

def Machine.testEither (m : Machine) (args : List String) (fuel : Nat) :
    Except String (Bool × List String) :=
  match fuel with
  | 0 => .error "argument expected"
  | fuel + 1 => do
    let (left, rest) ← m.testBoth args fuel
    match rest with
    | "-o" :: rest =>
      let (right, rest) ← m.testEither rest fuel
      .ok (left || right, rest)
    | _ => .ok (left, rest)
termination_by structural fuel

end

def Machine.test (m : Machine) (args : List String) : Except String Bool :=
  match m.testEither args (3 * args.length + 3) with
  | .ok (result, []) => .ok result
  | .ok (_, extra :: _) => .error (extra ++ ": unexpected operator")
  | .error e => .error e

end LintGate.Shell
