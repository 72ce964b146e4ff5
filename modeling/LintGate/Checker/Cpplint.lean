import LintGate.Checker.Batch
import LintGate.Text.Lines

/-! cpplint, which exits with a failure whenever it has findings: a run has gone wrong when
standard output mentions `FATAL`. Findings stand on standard error, one on a line, as
`file:line:  description  [category] [confidence]`. -/
namespace LintGate.Cpplint

structure Options where
  script : String
  lineLength : Nat
  filter : List String
deriving DecidableEq, Repr

def Options.default : Options := ⟨"./cpplint.py", 100, ["-runtime/int"]⟩

def reader : OptionReader Options where
  schema := [("script", .text), ("linelength", .nat32), ("filter", .texts)]
  toValues o := (o.script, o.lineLength, o.filter, ())
  ofValues values := ⟨values.1, values.2.1, values.2.2.1⟩
  start := .default

def Options.toFields (o : Options) : Fields := reader.toFields o

def Options.validate (o : Options) : Except OptionError Options :=
  if (Text.trim o.script.toList).isEmpty then .error .blankScript
  else if o.lineLength = 0 then .error .zeroLineLength
  else .ok o

def Options.decode (fields : Fields) : Except OptionError Options :=
  reader.decode fields >>= Options.validate

def arguments (o : Options) : List String :=
  ("--linelength=" ++ toString o.lineLength) ::
    (if o.filter.isEmpty then [] else ["--filter=" ++ Text.join "," o.filter])

def noFatal : Acceptance := fun out => !Text.contains "FATAL".toList out.stdout.toList

def row? (cs : List Char) : Option (Option Nat) :=
  (Text.unsigned? Text.limit32 cs).map (fun n => if n = 0 then none else some n)

/-- Reads a record off the words of a line. The last two words are the category and the
confidence, and those between them and the place are the description. -/
def recordOfWords? : List (List Char) → Option Finding
  | place :: rest => do
    let [file, row, _] := Text.pieces (· == ':') place | none
    let confidence :: category :: description := rest.reverse | none
    if file.isEmpty ∨ description.isEmpty then none
    let row ← row? row
    let words := confidence :: category :: description.reverse
    some ⟨String.ofList file, row, none, Text.join " " (words.map String.ofList)⟩
  | [] => none

def record? (line : List Char) : Option Finding := recordOfWords? (Text.words line)

def records (output : String) : List Finding :=
  (Text.lines output.toList).filterMap record?

def tool (o : Options) : ExternalTool where
  program := o.script
  arguments := arguments o
  accepts := noFatal
  read out := records out.stderr

def job (o : Options) : Job := fun ctx selection => (tool o).run ctx.runner selection.toList

def checker : Checker where
  name := "cpplint"
  mode := .whole
  language := some "cpp"
  fileRules := ["+ *.h", "+ *.h.in", "+ *.cpp", "+ *.c"]
  defaults := Options.default.toFields
  configure fields := (Options.decode fields).map job

end LintGate.Cpplint
