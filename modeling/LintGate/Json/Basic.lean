import LintGate.Decimal.Double

/-! Option values. Fields of an object keep the order in which they were first written. -/
namespace LintGate

inductive Json where
  | null
  | bool (b : Bool)
  | int (n : Int)
  | float (x : Double)
  | text (s : String)
  | list (items : List Json)
  | object (fields : List (String × Json))
deriving BEq, Repr, Inhabited

abbrev Fields := List (String × Json)

namespace Fields

def set (fields : Fields) (key : String) (value : Json) : Fields :=
  match fields with
  | [] => [(key, value)]
  | (name, old) :: rest =>
    if name = key then (key, value) :: rest else (name, old) :: set rest key value

def ofPairs (pairs : List (String × Json)) : Fields :=
  pairs.foldl (fun fields (key, value) => set fields key value) []

/-- Takes a field out; the last field moves into its place. -/
def take? (key : String) (fields : Fields) : Option (Json × Fields) :=
  match fields with
  | [] => none
  | (name, value) :: rest =>
    if name = key then
      match rest.getLast? with
      | none => some (value, [])
      | some last => some (value, last :: rest.dropLast)
    else (take? key rest).map (fun (found, others) => (found, (name, value) :: others))

def names (fields : Fields) : List String := fields.map (·.1)

end Fields

end LintGate
