import LintGate.Checker.Reading
import LintGate.Text.Lines

/-! The white-space check: blanks at the end of a line, and tabs. Where the changed lines of a
file are known, only those are looked at. -/
namespace LintGate.Whitespace

structure Options where
  tabs : Bool
deriving DecidableEq, Repr

def Options.default : Options := ⟨true⟩

def reader : OptionReader Options where
  schema := [("tabs", .bool)]
  toValues o := (o.tabs, ())
  ofValues values := ⟨values.1⟩
  start := .default

def Options.toFields (o : Options) : Fields := reader.toFields o

def Options.decode (fields : Fields) : Except OptionError Options := reader.decode fields

def trailing (file : String) (number : Nat) (line : List Char) : List Finding :=
  let kept := Text.trimEnd line
  if kept = line then []
  else [⟨file, some (position number), some (position (kept.length + 1)), "Trailing whitespace"⟩]

def tab (file : String) (number : Nat) (line : List Char) : List Finding :=
  match line.findIdx? (· == '\t') with
  | none => []
  | some index => [⟨file, some (position number), some (position (index + 1)), "Tab character"⟩]

def checkLine (o : Options) (file : String) (number : Nat) (line : List Char) : List Finding :=
  trailing file number line ++ if o.tabs then tab file number line else []

def checkLines (o : Options) (file : String) (wanted : Option LineSet) (number : Nat) :
    List (List Char) → List Finding
  | [] => []
  | line :: rest =>
    let later := checkLines o file wanted (number + 1) rest
    if wanted.all (·.contains (position number)) then checkLine o file number line ++ later
    else later

def checkFiles (ctx : Context) (o : Options) (selection : Selection) :
    List String → Except Failure (List Finding) :=
  checkEach ctx (fun file source =>
    checkLines o file (selection.linesOf? file) 1 (Text.lines source.toList))

def job (o : Options) : Job := fun ctx selection =>
  ⟨[], checkFiles ctx o selection selection.toList⟩

def checker : Checker where
  name := "whitespace"
  mode := .diffAware
  language := none
  fileRules := ["+ *"]
  defaults := Options.default.toFields
  configure fields := (Options.decode fields).map job

end LintGate.Whitespace
