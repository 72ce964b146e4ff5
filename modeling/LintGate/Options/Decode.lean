import LintGate.Json.Printer
import LintGate.Text.Cut
import LintGate.Text.Numeral

/-! Typed options read from the fields of an object. A field that is present replaces the
default of its name, and the first field that does not fit is the error. -/
namespace LintGate

inductive OptionError where
  | unknownField (name : String) (known : List String)
  | wrongType (found : Json) (expected : String)
  | outOfRange (found : Int) (expected : String)
  | blankScript
  | zeroLineLength
  | filterNotTexts
deriving BEq, Repr

def Json.described : Json → String
  | .null => "null"
  | .bool b => "boolean `" ++ scalarText (.bool b) ++ "`"
  | .int n => "integer `" ++ toString n ++ "`"
  | .float x => "floating point `" ++ x.text ++ "`"
  | .text s => "string " ++ Text.quoted s
  | .list _ => "sequence"
  | .object _ => "map"

def oneOf (names : List String) : String :=
  match names.map (fun name => "`" ++ name ++ "`") with
  | [] => "there are no fields"
  | [a] => "expected " ++ a
  | [a, b] => "expected " ++ a ++ " or " ++ b
  | several => "expected one of " ++ Text.join ", " several

def OptionError.message : OptionError → String
  | .unknownField name known => "unknown field `" ++ name ++ "`, " ++ oneOf known
  | .wrongType found expected => "invalid type: " ++ found.described ++ ", expected " ++ expected
  | .outOfRange found expected =>
    "invalid value: integer `" ++ toString found ++ "`, expected " ++ expected
  | .blankScript => "script must not be empty"
  | .zeroLineLength => "linelength must be positive"
  | .filterNotTexts => "filefilter must be a list of strings"

namespace Json

def asText : Json → Except OptionError String
  | .text s => .ok s
  | other => .error (.wrongType other "a string")

def asOptionalText : Json → Except OptionError (Option String)
  | .null => .ok none
  | other => (asText other).map some

def asTexts : Json → Except OptionError (List String)
  | .list items => items.mapM asText
  | other => .error (.wrongType other "a sequence")

def asBool : Json → Except OptionError Bool
  | .bool b => .ok b
  | other => .error (.wrongType other "a boolean")

def asNat32 : Json → Except OptionError Nat
  | .int n => if 0 ≤ n ∧ n < Text.limit32 then .ok n.toNat else .error (.outOfRange n "u32")
  | other => .error (.wrongType other "u32")

def ofTexts (texts : List String) : Json := .list (texts.map .text)

def ofOptionalText : Option String → Json
  | none => .null
  | some s => .text s

end Json

end LintGate
