import LintGate.Decimal.Shortest
import LintGate.Json.Basic
import LintGate.Text.Quoted

/-! JSON text of option values, on one line or indented. -/
namespace LintGate.Json

def hexPadded (n : Nat) : List Char :=
  let digits := Nat.toDigits 16 n
  List.replicate (4 - digits.length) '0' ++ digits

def escapedChar (c : Char) : List Char :=
  if c = '"' then ['\\', '"']
  else if c = '\\' then ['\\', '\\']
  else if c = '\n' then ['\\', 'n']
  else if c = '\r' then ['\\', 'r']
  else if c = '\t' then ['\\', 't']
  else if c = '\x08' then ['\\', 'b']
  else if c = '\x0c' then ['\\', 'f']
  else if c.toNat < 0x20 then '\\' :: 'u' :: hexPadded c.toNat
  else [c]

def escaped (s : String) : String :=
  "\"" ++ String.ofList (s.toList.flatMap escapedChar) ++ "\""

def scalarText : Json → String
  | .null => "null"
  | .bool b => if b then "true" else "false"
  | .int n => toString n
  | .float x => x.text
  | .text s => escaped s
  | .list _ => "[]"
  | .object _ => "\x7b\x7d"

mutual

def compact : Json → String
  | .list items => "[" ++ compactItems items ++ "]"
  | .object fields => "\x7b" ++ compactFields fields ++ "\x7d"
  | .null => scalarText .null
  | .bool b => scalarText (.bool b)
  | .int n => scalarText (.int n)
  | .float x => scalarText (.float x)
  | .text s => scalarText (.text s)

def compactItems : List Json → String
  | [] => ""
  | [item] => compact item
  | item :: rest => compact item ++ "," ++ compactItems rest

def compactFields : List (String × Json) → String
  | [] => ""
  | [(name, value)] => escaped name ++ ":" ++ compact value
  | (name, value) :: rest => escaped name ++ ":" ++ compact value ++ "," ++ compactFields rest

end

def newLine (level : Nat) : String := "\n" ++ String.ofList (List.replicate (2 * level) ' ')

mutual

def indented (level : Nat) : Json → String
  | .list [] => scalarText (.list [])
  | .list items => "[" ++ indentedItems (level + 1) items ++ newLine level ++ "]"
  | .object [] => scalarText (.object [])
  | .object fields => "\x7b" ++ indentedFields (level + 1) fields ++ newLine level ++ "\x7d"
  | .null => scalarText .null
  | .bool b => scalarText (.bool b)
  | .int n => scalarText (.int n)
  | .float x => scalarText (.float x)
  | .text s => scalarText (.text s)

def indentedItems (level : Nat) : List Json → String
  | [] => ""
  | [item] => newLine level ++ indented level item
  | item :: rest => newLine level ++ indented level item ++ "," ++ indentedItems level rest

def indentedFields (level : Nat) : List (String × Json) → String
  | [] => ""
  | [(name, value)] => newLine level ++ escaped name ++ ": " ++ indented level value
  | (name, value) :: rest =>
    newLine level ++ escaped name ++ ": " ++ indented level value ++ "," ++
      indentedFields level rest

end

def pretty (value : Json) : String := indented 0 value

end LintGate.Json
