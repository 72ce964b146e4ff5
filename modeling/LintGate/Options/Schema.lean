import LintGate.Options.Decode

/-! Options as a list of named fields. A schema says which names there are and what may stand under
each; fields are read one after the other, and a later one replaces what stood there. -/
namespace LintGate

inductive OptionType where
  | text
  | optionalText
  | texts
  | bool
  | nat32
deriving DecidableEq, Repr

namespace OptionType

def Value : OptionType → Type
  | .text => String
  | .optionalText => Option String
  | .texts => List String
  | .bool => Bool
  | .nat32 => Nat

def read : (type : OptionType) → Json → Except OptionError type.Value
  | .text => Json.asText
  | .optionalText => Json.asOptionalText
  | .texts => Json.asTexts
  | .bool => Json.asBool
  | .nat32 => Json.asNat32

def write : (type : OptionType) → type.Value → Json
  | .text => Json.text
  | .optionalText => Json.ofOptionalText
  | .texts => Json.ofTexts
  | .bool => Json.bool
  | .nat32 => fun n => Json.int (Int.ofNat n)

end OptionType

abbrev Schema := List (String × OptionType)

namespace Schema

def names (schema : Schema) : List String := schema.map Prod.fst

def Values : Schema → Type
  | [] => Unit
  | (_, type) :: rest => type.Value × Values rest

def write : (schema : Schema) → schema.Values → Fields
  | [], _ => []
  | (name, type) :: rest, values => (name, type.write values.1) :: write rest values.2

def assign (known : List String) : (schema : Schema) → schema.Values → String → Json →
    Except OptionError schema.Values
  | [], _, name, _ => .error (.unknownField name known)
  | (first, type) :: rest, values, name, value =>
    if name = first then (type.read value).map (fun new => (new, values.2))
    else (assign known rest values.2 name value).map (fun later => (values.1, later))

def read (schema : Schema) (start : schema.Values) (fields : Fields) :
    Except OptionError schema.Values :=
  fields.foldlM (fun values field => schema.assign schema.names values field.1 field.2) start

def config : Schema := [("config", .optionalText)]

theorem configDistinct : config.names.Nodup := by decide

end Schema

structure OptionReader (Options : Type) where
  schema : Schema
  toValues : Options → schema.Values
  ofValues : schema.Values → Options
  start : Options
  distinct : schema.names.Nodup := by decide
  restored : ∀ o, ofValues (toValues o) = o := by intro o; rfl
  held : ∀ values, toValues (ofValues values) = values := by intro values; rfl

namespace OptionReader

variable {Options : Type} (reader : OptionReader Options)

def toFields (o : Options) : Fields := reader.schema.write (reader.toValues o)

def decode (fields : Fields) : Except OptionError Options :=
  (reader.schema.read (reader.toValues reader.start) fields).map reader.ofValues

end OptionReader

end LintGate
