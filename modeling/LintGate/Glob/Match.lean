import LintGate.Glob.Pattern

/-! Matching a pattern against a path by search. A token that stands for a run is tried with
nothing first, and then with more and more characters, until the tokens behind it match. Once the
path runs out under a token that needs a character, the search ends early: a longer run before
that token would only leave it less. -/
namespace LintGate.Glob

def ClassItem.has (c : Char) : ClassItem → Bool
  | .one d => c == d
  | .range first last => first ≤ c && c ≤ last

def Token.takes (c : Char) : Token → Bool
  | .literal d => c == d
  | .anyChar => true
  | .within items => items.any (ClassItem.has c)
  | .except items => !items.any (ClassItem.has c)
  | .anyRun | .anyDirs => false

def Token.runEnd? : Token → Option (Char → Bool)
  | .anyRun => some (fun _ => true)
  | .anyDirs => some (· == '/')
  | _ => none

inductive Outcome where
  | matched
  | mismatch
  | exhausted
deriving DecidableEq, Repr

def Outcome.orElse : Outcome → (Unit → Outcome) → Outcome
  | .mismatch, other => other ()
  | outcome, _ => outcome

/-- Lets a run grow over the path and tries the tokens behind it after each character that may
be the last. The end of the path ends every run. -/
def grow (mayEnd : Char → Bool) (behind : List Char → Outcome) : List Char → Outcome
  | [] => behind []
  | c :: cs =>
    if mayEnd c then (behind cs).orElse (fun _ => grow mayEnd behind cs)
    else grow mayEnd behind cs

def search : List Token → List Char → Outcome
  | [], [] => .matched
  | [], _ :: _ => .mismatch
  | token :: tokens, path =>
    match token.runEnd? with
    | some mayEnd => (search tokens path).orElse (fun _ => grow mayEnd (search tokens) path)
    | none =>
      match path with
      | [] => .exhausted
      | c :: cs => if token.takes c then search tokens cs else .mismatch

def Pattern.matchesPath (p : Pattern) (path : String) : Bool :=
  search p.tokens path.toList == .matched

end LintGate.Glob
