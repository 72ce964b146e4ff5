import LintGate.Config.Entry
import LintGate.Text.Blank
import LintGate.Toml.Reader
import LintGate.Yaml.Value

/-! The content of a configuration file. Both formats hold the same fields, each at most once
and no others. -/
namespace LintGate

structure ConfigFile where
  jobs : Option Nat
  timeout : Option Nat
  output : Option String
  entries : List Entry
deriving BEq, Repr

namespace ConfigFile

def empty : ConfigFile := ⟨none, none, none, []⟩

def fieldNames : List String := ["jobs", "timeout", "output", "linters"]

def namesFit (names : List String) : Bool :=
  names.all fieldNames.contains && decide names.Nodup

def entries? (values : List Json) : Option (List Entry) :=
  values.mapM (fun value => (Entry.ofJson value).toOption)

end ConfigFile

namespace Yaml

def Node.text? : Node → Option String
  | .scalar _ text _ => some text
  | _ => none

def Node.nat? : Node → Option Nat
  | .scalar tag text style =>
    if style = .plain ∨ (style = .literal ∧ tag = some (coreTag "int")) then
      (natural? text).filter (· < Text.limit64)
    else none
  | _ => none

def Node.absent? : Node → Option Bool
  | .scalar none text .plain => some (text.isEmpty || isNullWord text)
  | .scalar (some tag) text .plain =>
    if tag ≠ coreTag "null" then some false
    else if isNullWord text then some true
    -- The tag says that there is no value, and the text says otherwise.
    else none
  | _ => some false

def optional? {α : Type} (read : Node → Option α) (node : Option Node) : Option (Option α) :=
  match node with
  | none => some none
  | some node =>
    match node.absent? with
    | none => none
    | some true => some none
    | some false => (read node).map some

def Node.entries? : Node → Option (List Entry)
  | .sequence _ items => (listToJson? items).bind ConfigFile.entries?
  | .scalar _ "" .plain => some []
  | _ => none

def config? (pairs : List (Node × Node)) : Option ConfigFile := do
  let fields ← pairs.mapM (fun (key, value) => key.text?.map (·, value))
  if !ConfigFile.namesFit (fields.map (·.1)) then none
  let jobs ← optional? Node.nat? (fields.lookup "jobs")
  let timeout ← optional? Node.nat? (fields.lookup "timeout")
  let output ← optional? Node.text? (fields.lookup "output")
  let entries ← ((fields.lookup "linters").map Node.entries?).getD (some [])
  some ⟨jobs, timeout, output, entries⟩

end Yaml

namespace ConfigFile

def ofYaml? (text : String) : Option ConfigFile := do
  match ← Yaml.parse? text with
  | none => some empty
  | some (.scalar _ "" .plain) => some empty
  | some (.mapping _ pairs) => Yaml.config? pairs
  | some _ => none

end ConfigFile

namespace Toml

def optional? {α : Type} (read : Json → Option α) (value : Option Json) : Option (Option α) :=
  match value with
  | none => some none
  | some value => (read value).map some

def nat? : Json → Option Nat
  | .int n => if 0 ≤ n ∧ n < Text.limit64 then some n.toNat else none
  | _ => none

def text? : Json → Option String
  | .text s => some s
  | _ => none

def entries? : Json → Option (List Entry)
  | .list items => ConfigFile.entries? items
  | _ => none

end Toml

namespace ConfigFile

def ofToml? (text : String) : Option ConfigFile := do
  let fields ← Toml.parse? text
  if !namesFit fields.names then none
  let jobs ← Toml.optional? Toml.nat? (fields.lookup "jobs")
  let timeout ← Toml.optional? Toml.nat? (fields.lookup "timeout")
  let output ← Toml.optional? Toml.text? (fields.lookup "output")
  let entries ← ((fields.lookup "linters").map Toml.entries?).getD (some [])
  some ⟨jobs, timeout, output, entries⟩

def parse? (extension : Option String) (text : String) : Option ConfigFile :=
  if extension = some "toml" then ofToml? text
  else if (Text.trimmed text).isEmpty then some empty
  else ofYaml? text

end ConfigFile

end LintGate
