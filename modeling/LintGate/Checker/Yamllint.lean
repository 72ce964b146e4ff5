import LintGate.Checker.Batch
import LintGate.Checker.ColonRecord

/-! yamllint in its parsable format, which prints one record on a line and exits with 1 when
there are any. -/
namespace LintGate.Yamllint

structure Options where
  config : Option String
deriving DecidableEq, Repr

def Options.default : Options := ⟨none⟩

def reader : OptionReader Options where
  schema := .config
  toValues o := (o.config, ())
  ofValues values := ⟨values.1⟩
  start := .default
  distinct := Schema.configDistinct

def Options.toFields (o : Options) : Fields := reader.toFields o

def Options.decode (fields : Fields) : Except OptionError Options := reader.decode fields

def arguments (o : Options) : List String :=
  ["-f", "parsable"] ++ match o.config with
    | none => []
    | some path => ["-c", path]

def tool (o : Options) : ExternalTool where
  program := "yamllint"
  arguments := arguments o
  accepts := .exitBelowTwo
  read out := colonRecords out.stdout

def job (o : Options) : Job := fun ctx selection => (tool o).run ctx.runner selection.toList

def checker : Checker where
  name := "yamllint"
  mode := .whole
  language := some "yaml"
  fileRules := ["+ *.yml", "+ *.yaml"]
  defaults := Options.default.toFields
  configure fields := (Options.decode fields).map job

end LintGate.Yamllint
