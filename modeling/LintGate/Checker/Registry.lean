import LintGate.Checker.Basic

/-! The checkers that a run can name. -/
namespace LintGate

structure Registry where
  checkers : List Checker

namespace Registry

def empty : Registry := ⟨[]⟩

def place (checker : Checker) : List Checker → List Checker
  | [] => [checker]
  | c :: rest => if c.name = checker.name then checker :: rest else c :: place checker rest

def register (r : Registry) (checker : Checker) : Registry := ⟨place checker r.checkers⟩

def get? (r : Registry) (name : String) : Option Checker :=
  r.checkers.find? (fun c => c.name == name)

def names (r : Registry) : List String := r.checkers.map (·.name)

def diagnostic (r : Registry) : String :=
  "LinterRegistry \x7b linters: [" ++ Text.join ", " (r.names.map Text.quoted) ++ "] \x7d"

end Registry

end LintGate
