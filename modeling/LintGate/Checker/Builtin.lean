import LintGate.Checker.Cpplint
import LintGate.Checker.Flake8
import LintGate.Checker.Header
import LintGate.Checker.Registry
import LintGate.Checker.Whitespace
import LintGate.Checker.Yamllint

/-! The checkers that come with the library. -/
namespace LintGate

def builtinCheckers : List Checker :=
  [Flake8.checker, Yamllint.checker, Cpplint.checker, Header.checker, Whitespace.checker]

def Registry.builtin : Registry := builtinCheckers.foldl Registry.register .empty

end LintGate
