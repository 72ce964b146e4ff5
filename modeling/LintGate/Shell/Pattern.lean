/-! Patterns of the shell. A character of a pattern that was quoted stands for itself. -/
namespace LintGate.Shell

abbrev Pattern := List (Char × Bool)

def Pattern.ofText (text : String) (quoted : Bool) : Pattern := text.toList.map (·, quoted)

def Pattern.text (p : Pattern) : String := String.ofList (p.map (·.1))

def Pattern.isActive (p : Pattern) : Bool :=
  p.any (fun (c, quoted) => !quoted && (c == '*' || c == '?' || c == '['))

def inBracket (c : Char) : Pattern → Bool
  | (low, _) :: ('-', false) :: (high, _) :: rest => (low ≤ c && c ≤ high) || inBracket c rest
  | (m, _) :: rest => m == c || inBracket c rest
  | [] => false

def bracket? (p : Pattern) : Option (Bool × Pattern × Pattern) :=
  let (excludes, p) := match p with
    | ('!', false) :: rest => (true, rest)
    | ('^', false) :: rest => (true, rest)
    | _ => (false, p)
  match p with
  | [] => none
  | first :: rest =>
    let members := rest.takeWhile (fun entry => entry != (']', false))
    match rest.dropWhile (fun entry => entry != (']', false)) with
    | _ :: after => some (excludes, first :: members, after)
    | [] => none

def Pattern.covers (p : Pattern) (cs : List Char) : Nat → Bool
  | 0 => false
  | fuel + 1 =>
    match p, cs with
    | [], cs => cs.isEmpty
    | ('*', false) :: rest, [] => covers rest [] fuel
    | ('*', false) :: rest, c :: more =>
      covers rest (c :: more) fuel || covers (('*', false) :: rest) more fuel
    | ('?', false) :: rest, _ :: more => covers rest more fuel
    | ('[', false) :: rest, c :: more =>
      match bracket? rest with
      | some (excludes, members, after) =>
        (inBracket c members != excludes) && covers after more fuel
      | none => c == '[' && covers rest more fuel
    | (x, _) :: rest, c :: more => x == c && covers rest more fuel
    | _ :: _, [] => false

def Pattern.accepts (p : Pattern) (text : List Char) : Bool :=
  p.covers text (p.length + text.length + 1)

def Pattern.dropStart (p : Pattern) (longest : Bool) (text : List Char) : List Char :=
  let sizes := List.range (text.length + 1)
  let sizes := if longest then sizes.reverse else sizes
  match sizes.find? (fun n => p.accepts (text.take n)) with
  | some n => text.drop n
  | none => text

def Pattern.dropEnd (p : Pattern) (longest : Bool) (text : List Char) : List Char :=
  let sizes := List.range (text.length + 1)
  let sizes := if longest then sizes else sizes.reverse
  match sizes.find? (fun n => p.accepts (text.drop n)) with
  | some n => text.take n
  | none => text

end LintGate.Shell
