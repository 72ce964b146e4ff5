import LintGate.Json.Printer
import LintGate.Text.Cut

/-! One entry of the list of checkers: a bare name, or a mapping from one name to its options. -/
namespace LintGate

structure Entry where
  name : String
  options : Fields
deriving BEq, Repr

inductive EntryError where
  | neitherNameNorMap
  | notOneKey (keys : List String)
  | optionsNotMap (name : String) (found : Json)
deriving BEq, Repr

def EntryError.message : EntryError → String
  | .neitherNameNorMap => "data did not match any variant of untagged enum RawEntry"
  | .notOneKey keys =>
    "linter entry must have exactly one key, found [" ++ Text.join ", " keys ++ "]"
  | .optionsNotMap name found =>
    "options of linter '" ++ name ++ "' must be a mapping, found " ++ found.compact

def Entry.ofJson : Json → Except EntryError Entry
  | .text name => .ok ⟨name, []⟩
  | .object [(name, .null)] => .ok ⟨name, []⟩
  | .object [(name, .object options)] => .ok ⟨name, options⟩
  | .object [(name, found)] => .error (.optionsNotMap name found)
  | .object fields => .error (.notOneKey (Fields.names fields))
  | _ => .error .neitherNameNorMap

end LintGate
