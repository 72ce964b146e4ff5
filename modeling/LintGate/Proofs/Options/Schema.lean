import LintGate.Options.Schema
import LintGate.Proofs.Except
import Mathlib.Algebra.GroupWithZero.Nat

/-! What one field does to the values of a schema. It is taken when its name is known and its value
has the type of the name, and it then stands under the name; nothing else changes. -/
namespace LintGate

namespace Fields

@[simp] theorem namesNil : names [] = [] := rfl

@[simp] theorem namesCons (field : String × Json) (rest : Fields) :
    names (field :: rest) = field.1 :: names rest := rfl

@[simp] theorem setNil (key : String) (value : Json) : set [] key value = [(key, value)] := rfl

@[simp] theorem setFirst (key : String) (old value : Json) (rest : Fields) :
    set ((key, old) :: rest) key value = (key, value) :: rest := if_pos rfl

@[simp] theorem setLater {name key : String} (other : name ≠ key) (old value : Json)
    (rest : Fields) :
    set ((name, old) :: rest) key value = (name, old) :: set rest key value := if_neg other

end Fields

def OptionType.Fits : OptionType → Json → Prop
  | .text, value => ∃ s, value = .text s
  | .optionalText, value => value = .null ∨ ∃ s, value = .text s
  | .texts, value => ∃ items : List String, value = .list (items.map .text)
  | .bool, value => ∃ b, value = .bool b
  | .nat32, value => ∃ n : Nat, value = .int n ∧ n ≤ 2 ^ 32 - 1

def Schema.Takes (schema : Schema) (name : String) (value : Json) : Prop :=
  ∃ type, (name, type) ∈ schema ∧ type.Fits value

def Schema.Typed (schema : Schema) (given : Fields) : Prop :=
  ∀ field ∈ given, schema.Takes field.1 field.2

section Values

variable {value : Json}

@[simp] theorem asTextOk {s : String} : value.asText = .ok s ↔ value = .text s := by
  cases value <;> simp [Json.asText]

@[simp] theorem asOptionalTextOk {s : Option String} :
    value.asOptionalText = .ok s ↔ value = .ofOptionalText s := by
  unfold Json.asOptionalText
  split
  · cases s with
    | none => simp [Json.ofOptionalText]
    | some s => simp [Json.ofOptionalText]
  · rename_i filled
    rw [mapOk]
    simp only [asTextOk]
    constructor
    · intro read
      obtain ⟨text, same, some⟩ := read
      rw [same, ← some]
      rfl
    · intro same
      cases s with
      | none => exact absurd same filled
      | some text => exact ⟨text, same, rfl⟩

@[simp] theorem asTextsOk {items : List String} :
    value.asTexts = .ok items ↔ value = .ofTexts items := by
  cases value with
  | list values =>
    simp only [Json.asTexts, Json.ofTexts, mapMEach, asTextOk, Json.list.injEq]
    constructor
    · intro each
      induction each with
      | nil => rfl
      | cons first rest ih => rw [List.map_cons, ← first, ← ih]
    · intro same
      subst same
      exact List.forall₂_map_left_iff.mpr (List.forall₂_same.mpr (fun _ _ => rfl))
  | _ => simp [Json.asTexts, Json.ofTexts]

@[simp] theorem asBoolOk {b : Bool} : value.asBool = .ok b ↔ value = .bool b := by
  cases value <;> simp [Json.asBool]

@[simp] theorem asNat32Ok {n : Nat} : value.asNat32 = .ok n ↔ value = .int n ∧ n ≤ 2 ^ 32 - 1 := by
  cases value with
  | int k =>
    have limit : (Text.limit32 : Int) = 4294967296 := rfl
    by_cases fits : 0 ≤ k ∧ k < Text.limit32
    · rw [Json.asNat32, if_pos fits, Except.ok.injEq, Json.int.injEq]
      omega
    · rw [Json.asNat32, if_neg fits, Json.int.injEq]
      simp only [reduceCtorEq, false_iff]
      omega
  | _ => simp [Json.asNat32]

theorem ofOptionalTextUnique {s t : Option String}
    (same : Json.ofOptionalText s = Json.ofOptionalText t) : s = t :=
  Except.ok.inj ((asOptionalTextOk.mpr rfl).symm.trans (asOptionalTextOk.mpr same))

theorem ofTextsUnique {items others : List String}
    (same : Json.ofTexts items = Json.ofTexts others) : items = others :=
  Except.ok.inj ((asTextsOk.mpr rfl).symm.trans (asTextsOk.mpr same))

theorem fitsOptionalText :
    OptionType.optionalText.Fits value ↔ ∃ s, value.asOptionalText = .ok s := by
  simp only [asOptionalTextOk, OptionType.Fits, Option.exists, Json.ofOptionalText]

end Values

namespace OptionType

variable {type : OptionType} {value : Json}

theorem fitsRead : type.Fits value ↔ ∃ new, type.read value = .ok new := by
  cases type with
  | text => exact exists_congr (fun s => asTextOk.symm)
  | optionalText => exact fitsOptionalText
  | texts => exact exists_congr (fun items => asTextsOk.symm)
  | bool => exact exists_congr (fun b => asBoolOk.symm)
  | nat32 => exact exists_congr (fun n => asNat32Ok.symm)

theorem readWritten {new : type.Value} (ok : type.read value = .ok new) :
    value = type.write new := by
  cases type with
  | text => exact asTextOk.mp ok
  | optionalText => exact asOptionalTextOk.mp ok
  | texts => exact asTextsOk.mp ok
  | bool => exact asBoolOk.mp ok
  | nat32 => exact (asNat32Ok.mp ok).1

theorem writeUnique {a b : type.Value} (same : type.write a = type.write b) : a = b := by
  cases type with
  | text => exact Json.text.inj same
  | optionalText => exact ofOptionalTextUnique same
  | texts => exact ofTextsUnique same
  | bool => exact Json.bool.inj same
  | nat32 => exact Int.ofNat.inj (Json.int.inj same)

end OptionType

namespace Schema

variable {schema : Schema}

@[simp] theorem writeNames (values : schema.Values) :
    (schema.write values).names = schema.names := by
  induction schema with
  | nil => rfl
  | cons field rest ih => exact congrArg (field.1 :: ·) (ih values.2)

theorem writeUnique {a b : schema.Values} (same : schema.write a = schema.write b) : a = b := by
  induction schema with
  | nil => rfl
  | cons field rest ih =>
    obtain ⟨first, later⟩ := List.cons.inj same
    exact Prod.ext (OptionType.writeUnique (Prod.mk.inj first).2) (ih later)

variable {known : List String} {name : String} {value : Json}

theorem assignTakes (distinct : schema.names.Nodup) (taken : schema.Takes name value)
    (values : schema.Values) :
    ∃ next, schema.assign known values name value = .ok next ∧
      schema.write next = (schema.write values).set name value := by
  obtain ⟨type, listed, fits⟩ := taken
  induction schema with
  | nil => exact absurd listed List.not_mem_nil
  | cons field rest ih =>
    obtain ⟨first, held⟩ := field
    obtain ⟨absent, apart⟩ := List.nodup_cons.mp distinct
    rcases List.mem_cons.mp listed with same | behind
    · cases same
      obtain ⟨new, read⟩ := OptionType.fitsRead.mp fits
      refine ⟨(new, values.2), ?_, by simp [write, OptionType.readWritten read]⟩
      rw [assign, if_pos rfl]
      exact mapOk.mpr ⟨new, read, rfl⟩
    · have other : name ≠ first := by
        rintro rfl
        exact absent (List.mem_map.mpr ⟨_, behind, rfl⟩)
      obtain ⟨later, taken, set⟩ := ih apart values.2 behind
      refine ⟨(values.1, later), ?_, by simp [write, Ne.symm other, set]⟩
      rw [assign, if_neg other]
      exact mapOk.mpr ⟨later, taken, rfl⟩

theorem assignOk {values next : schema.Values}
    (ok : schema.assign known values name value = .ok next) : schema.Takes name value := by
  induction schema with
  | nil => cases ok
  | cons field rest ih =>
    obtain ⟨first, held⟩ := field
    unfold assign at ok
    split at ok
    · rename_i same
      obtain ⟨new, read, -⟩ := mapOk.mp ok
      exact ⟨held, by simp [same], OptionType.fitsRead.mpr ⟨new, read⟩⟩
    · obtain ⟨later, taken, -⟩ := mapOk.mp ok
      obtain ⟨type, listed, fits⟩ := ih taken
      exact ⟨type, List.mem_cons_of_mem _ listed, fits⟩

end Schema

end LintGate
