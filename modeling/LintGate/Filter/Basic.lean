import LintGate.Filter.Rule

/-! Ordered lists of filename rules. The last rule that matches a path decides about it, and a
path that no rule matches is left out. -/
namespace LintGate

structure FileFilter where
  rules : List Rule
deriving DecidableEq, Repr

structure BadRule where
  rule : String
  reason : RuleError
deriving DecidableEq, Repr

namespace FileFilter

def parse : List String → Except BadRule FileFilter
  | [] => .ok ⟨[]⟩
  | text :: rest =>
    match Rule.parse text with
    | .error reason => .error ⟨text, reason⟩
    | .ok rule =>
      match parse rest with
      | .error bad => .error bad
      | .ok filter => .ok ⟨rule :: filter.rules⟩

def accepts (f : FileFilter) (path : String) : Bool :=
  (f.rules.reverse.find? (·.matchesPath path)).any (·.sign == .plus)

def select (f : FileFilter) (candidates : List String) : List String :=
  candidates.filter f.accepts

end FileFilter

end LintGate
