import LintGate.Checker.Reading
import LintGate.Text.Lines

/-! The header check: every file starts with the lines of a template, written as comments, with
some extra lines above them. A shebang line at the top is checked on its own and does not
count. -/
namespace LintGate.Header

structure Options where
  header : String
  comment : String
  shebang : Option String
  extra : List String
deriving DecidableEq, Repr

def Options.default : Options where
  header := "HEADER"
  comment := "# "
  shebang := some "#!/usr/bin/env python"
  extra := ["# -*- coding: utf-8 -*-"]

def reader : OptionReader Options where
  schema := [("header", .text), ("comment", .text), ("shebang", .optionalText), ("extra", .texts)]
  toValues o := (o.header, o.comment, o.shebang, o.extra, ())
  ofValues values := ⟨values.1, values.2.1, values.2.2.1, values.2.2.2.1⟩
  start := .default

def Options.toFields (o : Options) : Fields := reader.toFields o

def Options.decode (fields : Fields) : Except OptionError Options := reader.decode fields

def expectedLines (o : Options) (template : String) : List (List Char) :=
  o.extra.map (·.toList) ++
    (Text.lines template.toList).map (fun line => Text.trim (o.comment.toList ++ line))

def wrongLine (file : String) (number : Nat) (want : List Char) : Finding :=
  ⟨file, some (position number), none, "Line should be: " ++ String.ofList want⟩

def wrongShebang (file shebang : String) : Finding :=
  ⟨file, some 1, none, "Shebang line should be " ++ shebang ++ "."⟩

def compareLines (file : String) (number : Nat) :
    (expected lines : List (List Char)) → List Finding
  | want :: expected, line :: lines =>
    let later := compareLines file (number + 1) expected lines
    if line = want then later else wrongLine file number want :: later
  | _, _ => []

/-- Findings of one file. When nothing is expected, the shebang is not looked at either. -/
def check (file : String) (shebang : Option String) (expected lines : List (List Char)) :
    List Finding :=
  match shebang, expected, lines with
  | some shebang, _ :: _, first :: rest =>
    if Text.startsWith ['#', '!'] first then
      let later := compareLines file 2 expected rest
      if first = shebang.toList then later else wrongShebang file shebang :: later
    else compareLines file 1 expected lines
  | _, _, _ => compareLines file 1 expected lines

def checkFiles (ctx : Context) (o : Options) (expected : List (List Char)) :
    List String → Except Failure (List Finding) :=
  checkEach ctx (fun file source => check file o.shebang expected (Text.lines source.toList))

def run (ctx : Context) (o : Options) (files : List String) : Except Failure (List Finding) :=
  if files.isEmpty then .ok []
  else
    let path := Path.join ctx.root o.header
    match ctx.tree.readText path with
    | .error e => .error (.io ("cannot read header template " ++ path ++ ": " ++ e.message))
    | .ok template => checkFiles ctx o (expectedLines o template) files

def job (o : Options) : Job := fun ctx selection => ⟨[], run ctx o selection.toList⟩

def checker : Checker where
  name := "header"
  mode := .whole
  language := none
  fileRules := ["+ *.py", "+ *.pyx", "+ *.pxd"]
  defaults := Options.default.toFields
  configure fields := (Options.decode fields).map job

end LintGate.Header
