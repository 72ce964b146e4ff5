import LintGate.Yaml.Event

/-! Nodes of a YAML document, with every alias replaced by the node that it stands for. -/
namespace LintGate.Yaml

inductive Node where
  | scalar (tag : Option String) (text : String) (style : Style)
  | sequence (tag : Option String) (items : List Node)
  | mapping (tag : Option String) (pairs : List (Node × Node))
deriving BEq, Repr, Inhabited

inductive Linked where
  | alias (slot : Nat)
  | event (e : Event)
deriving DecidableEq, Repr

/-- Names of anchors with their slots, and the events that follow each slot's latest anchor. An
anchor takes the slot whose number is the count of names before it, so a name that is used again
shares its slot with the next new name. -/
structure Anchors where
  slots : List (String × Nat)
  places : List (Nat × Nat)
deriving DecidableEq, Repr

def Anchors.add (a : Anchors) (name : String) (place : Nat) : Anchors :=
  let slot := a.slots.length
  ⟨(name, slot) :: a.slots.filter (fun entry => entry.1 ≠ name), (slot, place) :: a.places⟩

def Event.anchor? : Event → Option String
  | .scalar anchor .. | .sequence anchor _ | .mapping anchor _ => anchor
  | _ => none

def link (a : Anchors) (place : Nat) : List Event → Option (List Linked × Anchors)
  | [] => some ([], a)
  | .alias name :: rest => do
    let slot ← a.slots.lookup name
    let (linked, a) ← link a (place + 1) rest
    some (.alias slot :: linked, a)
  | e :: rest => do
    let (linked, a) ← link ((e.anchor?.map (a.add · place)).getD a) (place + 1) rest
    some (.event e :: linked, a)

structure Document where
  events : List Linked
  places : List (Nat × Nat)
deriving DecidableEq, Repr

def Document.ofEvents? (events : List Event) : Option Document :=
  (link ⟨[], []⟩ 0 events).map (fun (linked, a) => ⟨linked, a.places⟩)

def maxDepth : Nat := 128

def Document.maxJumps (d : Document) : Nat := 100 * d.events.length

mutual

/-- Reads the node at the front of some events. `jumps` is how many aliases may still be
followed and `depth` how many collections may still be opened. -/
def Document.readNode (d : Document) (depth jumps : Nat) (events : List Linked) (fuel : Nat) :
    Option (Node × List Linked × Nat) :=
  match fuel with
  | 0 => none
  | fuel + 1 =>
    match events with
    | .alias slot :: rest => do
      if jumps = 0 then none
      let place ← d.places.lookup slot
      let (node, _, jumps) ← d.readNode depth (jumps - 1) (d.events.drop place) fuel
      some (node, rest, jumps)
    | .event (.scalar _ tag text style) :: rest => some (.scalar tag text style, rest, jumps)
    | .event (.sequence _ tag) :: rest => do
      if depth = 0 then none
      let (items, rest, jumps) ← d.readItems (depth - 1) jumps [] rest fuel
      some (.sequence tag items, rest, jumps)
    | .event (.mapping _ tag) :: rest => do
      if depth = 0 then none
      let (pairs, rest, jumps) ← d.readPairs (depth - 1) jumps [] rest fuel
      some (.mapping tag pairs, rest, jumps)
    | _ => none
termination_by structural fuel

def Document.readItems (d : Document) (depth jumps : Nat) (done : List Node)
    (events : List Linked) (fuel : Nat) : Option (List Node × List Linked × Nat) :=
  match fuel with
  | 0 => none
  | fuel + 1 =>
    match events with
    | .event .sequenceEnd :: rest => some (done.reverse, rest, jumps)
    | events => do
      let (item, rest, jumps) ← d.readNode depth jumps events fuel
      d.readItems depth jumps (item :: done) rest fuel
termination_by structural fuel

def Document.readPairs (d : Document) (depth jumps : Nat) (done : List (Node × Node))
    (events : List Linked) (fuel : Nat) : Option (List (Node × Node) × List Linked × Nat) :=
  match fuel with
  | 0 => none
  | fuel + 1 =>
    match events with
    | .event .mappingEnd :: rest => some (done.reverse, rest, jumps)
    | events => do
      let (key, rest, jumps) ← d.readNode depth jumps events fuel
      let (value, rest, jumps) ← d.readNode depth jumps rest fuel
      d.readPairs depth jumps ((key, value) :: done) rest fuel
termination_by structural fuel

end

def Document.root? (d : Document) : Option Node :=
  (d.readNode maxDepth d.maxJumps d.events ((maxDepth + 2) * (d.events.length + 3))).map (·.1)

def parse? (text : String) : Option (Option Node) := do
  match ← documents? text with
  | [] => some none
  | [events] =>
    let document ← Document.ofEvents? events
    let node ← document.root?
    some (some node)
  | _ => none

end LintGate.Yaml
