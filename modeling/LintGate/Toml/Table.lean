import LintGate.Json.Basic

/-! Tables of a TOML document while it is read. A table can be given by a header, by the header of
a table inside it, or by a key with dots, and that decides what may be added to it later. -/
namespace LintGate.Toml

inductive Form where
  | header
  | implied
  | dotted
deriving DecidableEq, Repr

inductive Item where
  | value (v : Json)
  | table (form : Form) (items : List (String × Item))
  | tables (rows : List (List (String × Item)))
deriving Repr, Inhabited

abbrev Items := List (String × Item)

def Items.set (items : Items) (key : String) (item : Item) : Items :=
  match items with
  | [] => [(key, item)]
  | (name, old) :: rest =>
    if name = key then (key, item) :: rest else (name, old) :: set rest key item

def Items.add? (items : Items) (key : String) (item : Item) : Option Items :=
  match items.lookup key with
  | some _ => none
  | none => some (items ++ [(key, item)])

/-- Changes the table at the end of a path. Tables on the way that do not exist are made; a key
with dots may not go through a table that a header has given. Of a list of tables the last one
counts. -/
def change? (dotted : Bool) (path : List String) (form : Form) (items : Items)
    (f : Form → Items → Option Items) : Option Items :=
  match path with
  | [] => f form items
  | key :: path =>
    match items.lookup key with
    | none => do
      let form := if dotted then Form.dotted else Form.implied
      let inner ← change? dotted path form [] f
      some (items ++ [(key, .table form inner)])
    | some (.table form inner) =>
      if dotted ∧ form = .header then none
      else (change? dotted path form inner f).map (fun inner => items.set key (.table form inner))
    | some (.tables (row :: rows)) =>
      (change? dotted path .header row f).map (fun row => items.set key (.tables (row :: rows)))
    | _ => none

def within? (path : List String) (items : Items) (f : Items → Option Items) : Option Items :=
  change? false path .header items (fun _ items => f items)

def assign? (path : List String) (key : String) (value : Item) (items : Items) : Option Items :=
  change? true path .header items (fun form items =>
    if !path.isEmpty ∧ form ≠ .dotted then none else items.add? key value)

def openTable? (path : List String) (key : String) (items : Items) : Option Items :=
  change? false path .header items (fun _ items =>
    match items.lookup key with
    | none => some (items ++ [(key, .table .header [])])
    | some (.table .implied inner) => some (items.set key (.table .header inner))
    | some _ => none)

def openRow? (path : List String) (key : String) (items : Items) : Option Items :=
  change? false path .header items (fun _ items =>
    match items.lookup key with
    | none => some (items ++ [(key, .tables [[]])])
    | some (.tables rows) => some (items.set key (.tables ([] :: rows)))
    | some _ => none)

def sorted (fields : Fields) : Fields := fields.mergeSort (fun a b => decide (a.1 ≤ b.1))

mutual

def Item.toJson : Item → Json
  | .value v => v
  | .table _ items => .object (sorted (fieldsOf items))
  | .tables rows => .list (rowsOf rows).reverse

def fieldsOf : List (String × Item) → Fields
  | [] => []
  | (key, item) :: rest => (key, item.toJson) :: fieldsOf rest

def rowsOf : List (List (String × Item)) → List Json
  | [] => []
  | row :: rest => .object (sorted (fieldsOf row)) :: rowsOf rest

end

end LintGate.Toml
