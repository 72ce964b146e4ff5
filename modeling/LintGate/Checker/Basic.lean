import LintGate.Change.Index
import LintGate.Command.Basic
import LintGate.Files.Tree
import LintGate.Finding
import LintGate.Options.Schema

/-! Checkers: what looks at files and reports findings. -/
namespace LintGate

inductive Mode where
  | whole
  | diffAware
deriving DecidableEq, Repr

inductive Selection where
  | whole (files : List String)
  | changed (files : List String) (lines : Option ChangedLines)
deriving DecidableEq, Repr

namespace Selection

def toList : Selection → List String
  | .whole files => files
  | .changed files _ => files

def isEmpty (s : Selection) : Bool := s.toList.isEmpty

def linesOf? (s : Selection) (file : String) : Option LineSet :=
  match s with
  | .whole _ => none
  | .changed _ lines => lines.bind (·.lines? file)

end Selection

structure Context where
  root : String
  tree : FileTree
  runner : Runner

abbrev Job := Context → Selection → Traced (List Finding)

structure Checker where
  name : String
  mode : Mode
  language : Option String
  fileRules : List String
  defaults : Fields
  configure : Fields → Except OptionError Job

def Checker.defaultOptions (c : Checker) : Json :=
  .object (Fields.set c.defaults "filefilter" (.ofTexts c.fileRules))

def lastPosition : Nat := Text.limit32 - 1

def position (n : Nat) : Nat := min n lastPosition

end LintGate
