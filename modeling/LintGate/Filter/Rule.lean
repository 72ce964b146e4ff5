import LintGate.Glob.Match
import LintGate.Text.Blank

/-! Filename rules: a sign and a glob pattern. -/
namespace LintGate

inductive Sign where
  | plus
  | minus
deriving DecidableEq, Repr

def Sign.char : Sign → Char
  | .plus => '+'
  | .minus => '-'

inductive RuleError where
  | unsigned
  | noPattern
  | badGlob (error : Glob.SyntaxError)
deriving DecidableEq, Repr

def RuleError.message : RuleError → String
  | .unsigned => "rule must start with '+' or '-'"
  | .noPattern => "rule has no pattern"
  | .badGlob error => error.message

structure Rule where
  sign : Sign
  pattern : Glob.Pattern
deriving DecidableEq, Repr

namespace Rule

def sign? : List Char → Option (Sign × List Char)
  | '+' :: rest => some (.plus, rest)
  | '-' :: rest => some (.minus, rest)
  | _ => none

def parse (text : String) : Except RuleError Rule :=
  match sign? (Text.trim text.toList) with
  | none => .error .unsigned
  | some (sign, rest) =>
    match Text.trim rest with
    | [] => .error .noPattern
    | glob =>
      match Glob.Pattern.parse (String.ofList glob) with
      | .ok pattern => .ok ⟨sign, pattern⟩
      | .error error => .error (.badGlob error)

def text (r : Rule) : String := r.sign.char.toString ++ " " ++ r.pattern.text

def matchesPath (r : Rule) (path : String) : Bool := r.pattern.matchesPath path

end Rule

end LintGate
