import LintGate.Path.Basic

/-! What a checker reports about a place in a file. -/
namespace LintGate

structure Finding where
  file : String
  line : Option Nat
  column : Option Nat
  text : String
deriving DecidableEq, Repr

def comparePlace : Option Nat → Option Nat → Ordering
  | none, none => .eq
  | none, some _ => .lt
  | some _, none => .gt
  | some a, some b => compare a b

namespace Finding

def cmp (a b : Finding) : Ordering :=
  (compare a.file b.file).then <| (comparePlace a.line b.line).then <|
    (comparePlace a.column b.column).then <| compare a.text b.text

def le (a b : Finding) : Bool := (cmp a b).isLE

def sort (findings : List Finding) : List Finding := findings.mergeSort le

def dropRepeats : List Finding → List Finding
  | [] => []
  | [a] => [a]
  | a :: b :: rest => if a = b then dropRepeats (b :: rest) else a :: dropRepeats (b :: rest)

def location (f : Finding) : String :=
  match f.line, f.column with
  | none, _ => f.file
  | some line, none => f.file ++ ":" ++ toString line
  | some line, some column => f.file ++ ":" ++ toString line ++ ":" ++ toString column

def display (f : Finding) : String := f.location ++ " " ++ f.text

/-- The name that the changed lines know a file by: an absolute name is seen from the root, and
a leading `./` is dropped. -/
def relativeName (root file : String) : String :=
  let name :=
    if Path.isAbsolute file then
      match Path.relative? file root with
      | some path => String.ofList (path.toList.map (fun c => if c = '\\' then '/' else c))
      | none => file
    else file
  match Text.after? ['.', '/'] name.toList with
  | some rest => String.ofList rest
  | none => name

def relativeTo (root : String) (f : Finding) : Finding :=
  { f with file := relativeName root f.file }

end Finding

end LintGate
