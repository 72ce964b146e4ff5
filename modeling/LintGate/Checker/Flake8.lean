import LintGate.Checker.Batch
import LintGate.Checker.ColonRecord

/-! flake8, which prints its records on standard output and exits with 1 when there are any. -/
namespace LintGate.Flake8

structure Options where
  config : Option String
deriving DecidableEq, Repr

def Options.default : Options := ⟨none⟩

def reader : OptionReader Options where
  schema := .config
  toValues o := (o.config, ())
  ofValues values := ⟨values.1⟩
  start := .default
  distinct := Schema.configDistinct

def Options.toFields (o : Options) : Fields := reader.toFields o

def Options.decode (fields : Fields) : Except OptionError Options := reader.decode fields

def arguments (o : Options) : List String :=
  match o.config with
  | none => []
  | some path => ["--config=" ++ path]

def tool (o : Options) : ExternalTool where
  program := "flake8"
  arguments := arguments o
  accepts := .exitBelowTwo
  read out := colonRecords out.stdout

def job (o : Options) : Job := fun ctx selection => (tool o).run ctx.runner selection.toList

def checker : Checker where
  name := "flake8"
  mode := .whole
  language := some "python"
  fileRules := ["+ *.py", "+ *.pyx", "+ *.pxd", "+ scripts/*"]
  defaults := Options.default.toFields
  configure fields := (Options.decode fields).map job

end LintGate.Flake8
