/-! Cutting a text at a known mark. -/
namespace LintGate.Text

def after? : List Char → List Char → Option (List Char)
  | [], cs => some cs
  | _ :: _, [] => none
  | m :: ms, c :: cs => if m = c then after? ms cs else none

def startsWith (mark cs : List Char) : Bool := (after? mark cs).isSome

def contains (mark : List Char) : List Char → Bool
  | [] => mark.isEmpty
  | c :: cs => startsWith mark (c :: cs) || contains mark cs

def afterLast? (mark : List Char) : List Char → Option (List Char)
  | [] => after? mark []
  | c :: cs => (afterLast? mark cs).orElse (fun _ => after? mark (c :: cs))

def cut? (separator : Char) : List Char → Option (List Char × List Char)
  | [] => none
  | c :: cs =>
    if c = separator then some ([], cs)
    else (cut? separator cs).map (fun (left, right) => (c :: left, right))

def join (separator : String) : List String → String
  | [] => ""
  | [s] => s
  | s :: t :: rest => s ++ separator ++ join separator (t :: rest)

def padded (width : Nat) (s : String) : String :=
  s ++ String.ofList (List.replicate (width - s.length) ' ')

end LintGate.Text
