import LintGate.Toml.Number
import LintGate.Toml.Table
import LintGate.Toml.Text

/-! Reading a TOML document. Fields of its tables come out in the order of their names. -/
namespace LintGate.Toml

def maxDepth : Nat := 80

mutual

def readValue (depth : Nat) (cs : List Char) (fuel : Nat) : Option (Json × List Char) :=
  match fuel with
  | 0 => none
  | fuel + 1 =>
    match cs with
    | '[' :: rest => if depth = 0 then none else readItems (depth - 1) [] rest fuel
    | '\x7b' :: rest => if depth = 0 then none else readInline (depth - 1) [] rest fuel
    | '"' :: _ | '\'' :: _ => (readText cs).map (fun (s, rest) => (.text s, rest))
    | _ =>
      let (run, rest) := scalarRun cs
      (scalar? run).map (·, rest)
termination_by structural fuel

def readItems (depth : Nat) (done : List Json) (cs : List Char) (fuel : Nat) :
    Option (Json × List Char) :=
  match fuel with
  | 0 => none
  | fuel + 1 =>
    match skipSpace cs cs.length with
    | ']' :: rest => some (.list done.reverse, rest)
    | cs => do
      let (item, rest) ← readValue depth cs fuel
      match skipSpace rest rest.length with
      | ',' :: rest => readItems depth (item :: done) rest fuel
      | ']' :: rest => some (.list (item :: done).reverse, rest)
      | _ => none
termination_by structural fuel

def readInline (depth : Nat) (done : Items) (cs : List Char) (fuel : Nat) :
    Option (Json × List Char) :=
  match fuel with
  | 0 => none
  | fuel + 1 =>
    match skipSpace cs cs.length with
    | '\x7d' :: rest => some (.object (sorted (fieldsOf done)), rest)
    | cs => do
      let (path, rest) ← readKey [] cs (cs.length + 1)
      let '=' :: rest := rest | none
      let (value, rest) ← readValue depth (skipBlanks rest) fuel
      let key ← path.getLast?
      let done ← assign? path.dropLast key (.value value) done
      match skipSpace rest rest.length with
      | ',' :: rest => readInline depth done rest fuel
      | '\x7d' :: rest => some (.object (sorted (fieldsOf done)), rest)
      | _ => none
termination_by structural fuel

end

structure Draft where
  items : Items
  current : List String
deriving Repr

def readHeader (cs : List Char) : Option (List String × List Char) := do
  let (path, rest) ← readKey [] cs (cs.length + 1)
  let ']' :: rest := rest | none
  some (path, rest)

def readLine (d : Draft) (cs : List Char) : Option (Draft × List Char) :=
  match cs with
  | '[' :: '[' :: rest => do
    let (path, rest) ← readHeader rest
    let ']' :: rest := rest | none
    let key ← path.getLast?
    let items ← openRow? path.dropLast key d.items
    some (⟨items, path⟩, rest)
  | '[' :: rest => do
    let (path, rest) ← readHeader rest
    let key ← path.getLast?
    let items ← openTable? path.dropLast key d.items
    some (⟨items, path⟩, rest)
  | _ => do
    let (path, rest) ← readKey [] cs (cs.length + 1)
    let '=' :: rest := rest | none
    let rest := skipBlanks rest
    let (value, rest) ← readValue maxDepth rest (rest.length + 1)
    let key ← path.getLast?
    let items ← within? d.current d.items (assign? path.dropLast key (.value value))
    some ({ d with items := items }, rest)

def readLines (d : Draft) (cs : List Char) : Nat → Option Draft
  | 0 => none
  | fuel + 1 =>
    match skipComment (skipBlanks cs) with
    | [] => some d
    | cs =>
      match lineBreak? cs with
      | some rest => readLines d rest fuel
      | none => do
        let (d, rest) ← readLine d cs
        let rest ← endLine? rest
        readLines d rest fuel

def parse? (text : String) : Option Fields :=
  let cs := match text.toList with
    | c :: rest => if c.toNat = 0xFEFF then rest else c :: rest
    | [] => []
  (readLines ⟨[], []⟩ cs (cs.length + 1)).map (fun d => sorted (fieldsOf d.items))

end LintGate.Toml
