import LintGate.Yaml.Node

/-! Values of YAML nodes. A plain scalar is a number, a truth value or nothing when it is written
like one; every other scalar is a text. -/
namespace LintGate.Yaml

def isNullWord (text : String) : Bool := ["null", "Null", "NULL", "~"].contains text

def boolWord? (text : String) : Option Bool :=
  if ["true", "True", "TRUE"].contains text then some true
  else if ["false", "False", "FALSE"].contains text then some false
  else none

def baseDigits? (base : Nat) (cs : List Char) : Option Nat :=
  if cs.isEmpty then none
  else cs.foldlM (fun n c => ((Json.hexValue? c).filter (· < base)).map (base * n + ·)) 0

def bases : List (Char × Nat) := [('x', 16), ('o', 8), ('b', 2)]

def dropSign : List Char → List Char
  | '+' :: rest => rest
  | '-' :: rest => rest
  | cs => cs

def isZeroPadded (cs : List Char) : Bool :=
  match dropSign cs with
  | '0' :: d :: rest => (d :: rest).all Char.isDigit
  | _ => false

def magnitude? (cs : List Char) : Option Nat :=
  match cs with
  | '0' :: mark :: digits =>
    match bases.lookup mark with
    | some base => baseDigits? base digits
    | none => if isZeroPadded cs then none else baseDigits? 10 cs
  | _ => baseDigits? 10 cs

def natural? (text : String) : Option Nat :=
  match text.toList with
  | '+' :: rest => magnitude? rest
  | cs => magnitude? cs

def negative? (text : String) : Option Nat :=
  match text.toList with
  | '-' :: rest => magnitude? rest
  | _ => none

inductive Whole where
  | fits (n : Int)
  | tooLarge
  | no
deriving DecidableEq, Repr

def whole (text : String) : Whole :=
  match natural? text, negative? text with
  | some n, _ =>
    if n < Text.limit64 then .fits n else if n < Text.limit128 then .tooLarge else .no
  | none, some n =>
    if n ≤ Text.signedLimit64 then .fits (-n)
    else if n ≤ Text.signedLimit128 then .tooLarge
    else .no
  | none, none => .no

def decimal? (cs : List Char) : Option (Nat × Int) := do
  let before := cs.takeWhile Char.isDigit
  let rest := cs.dropWhile Char.isDigit
  let (after, rest) := match rest with
    | '.' :: rest => (rest.takeWhile Char.isDigit, rest.dropWhile Char.isDigit)
    | _ => ([], rest)
  let digits ← Text.digits? (before ++ after)
  match rest with
  | [] => some (digits, -(after.length : Int))
  | c :: rest =>
    if c = 'e' ∨ c = 'E' then do
      let sign : Int := if rest.head? = some '-' then -1 else 1
      let power ← Text.digits? (dropSign rest)
      some (digits, sign * power - after.length)
    else none

/-- A number with a point or an exponent. Infinities and what is not a number have no value of
their own and are null. -/
def float? (text : String) : Option Json :=
  let cs := text.toList
  let infinities := ["inf", "Inf", "INF"].map (fun word => '.' :: word.toList)
  if infinities.contains (dropSign cs) ∨ [".nan", ".NaN", ".NAN"].contains text then some .null
  else match cs with
    | '-' :: rest => (decimal? rest).bind (fun (n, e) => (Double.ofDecimal? true n e).map .float)
    | '+' :: rest => (decimal? rest).bind (fun (n, e) => (Double.ofDecimal? false n e).map .float)
    | _ => (decimal? cs).bind (fun (n, e) => (Double.ofDecimal? false n e).map .float)

def plainValue? (text : String) : Option Json :=
  if text.isEmpty ∨ isNullWord text then some .null
  else match boolWord? text, whole text with
    | some b, _ => some (.bool b)
    | none, .fits n => some (.int n)
    | none, .tooLarge => none
    | none, .no =>
      if isZeroPadded text.toList then some (.text text)
      else some ((float? text).getD (.text text))

def coreTag (name : String) : String := "tag:yaml.org,2002:" ++ name

def isLocal : Option String → Bool
  | some tag => tag.toList.head? == some '!'
  | none => false

def scalarValue? (tag : Option String) (text : String) (style : Style) : Option Json :=
  match tag with
  | none => if style = .plain then plainValue? text else some (.text text)
  | some tag =>
    if tag = coreTag "bool" then (boolWord? text).map .bool
    else if tag = coreTag "int" then
      match whole text with
      | .fits n => some (.int n)
      | _ => none
    else if tag = coreTag "float" then float? text
    else if tag = coreTag "null" then if isNullWord text then some .null else none
    else some (.text text)

mutual

def Node.toJson? : Node → Option Json
  | .scalar tag text style => if isLocal tag then none else scalarValue? tag text style
  | .sequence tag items => if isLocal tag then none else (listToJson? items).map .list
  | .mapping tag pairs =>
    if isLocal tag then none else (pairsToJson? pairs).map (fun ps => .object (Fields.ofPairs ps))

def listToJson? : List Node → Option (List Json)
  | [] => some []
  | item :: rest => do
    let value ← item.toJson?
    let values ← listToJson? rest
    some (value :: values)

def pairsToJson? : List (Node × Node) → Option (List (String × Json))
  | [] => some []
  | (key, value) :: rest => do
    let name ← key.toJson?
    let value ← value.toJson?
    let pairs ← pairsToJson? rest
    match name with
    | .text name => some ((name, value) :: pairs)
    | _ => none

end

end LintGate.Yaml
