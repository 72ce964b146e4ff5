import LintGate.Yaml.Token

/-! Events of a YAML text: the nodes of its documents in the order in which they are written. -/
namespace LintGate.Yaml

inductive Event where
  | alias (name : String)
  | scalar (anchor tag : Option String) (text : String) (style : Style)
  | sequence (anchor tag : Option String)
  | sequenceEnd
  | mapping (anchor tag : Option String)
  | mappingEnd
deriving DecidableEq, Repr

abbrev Handles := List (String × String)

def defaultHandles : Handles := [("!", "!"), ("!!", "tag:yaml.org,2002:")]

def emptyScalar : Event := .scalar none none "" .plain

structure Properties where
  anchor : Option String
  tag : Option String
deriving DecidableEq, Repr

def resolveTag? (handles : Handles) (handle suffix : String) : Option String :=
  if handle.isEmpty then some suffix else (handles.lookup handle).map (· ++ suffix)

def readProperties (handles : Handles) : List Token → Option (Properties × List Token)
  | .anchor a :: .tag h s :: rest =>
    (resolveTag? handles h s).map (fun t => (⟨some a, some t⟩, rest))
  | .anchor a :: rest => some (⟨some a, none⟩, rest)
  | .tag h s :: .anchor a :: rest =>
    (resolveTag? handles h s).map (fun t => (⟨some a, some t⟩, rest))
  | .tag h s :: rest => (resolveTag? handles h s).map (fun t => (⟨none, some t⟩, rest))
  | rest => some (⟨none, none⟩, rest)

abbrev Reading := Option (List Event × List Token)

def endsEntry : List Token → Bool
  | .blockEntry :: _ | .blockEnd :: _ => true
  | _ => false

def endsIndentless : List Token → Bool
  | .blockEntry :: _ | .key :: _ | .value :: _ | .blockEnd :: _ => true
  | _ => false

def endsPair : List Token → Bool
  | .key :: _ | .value :: _ | .blockEnd :: _ => true
  | _ => false

def endsFlowKey (last : Token) : List Token → Bool
  | .value :: _ | .flowEntry :: _ => true
  | t :: _ => t == last
  | [] => false

def endsFlowValue (last : Token) : List Token → Bool
  | .flowEntry :: _ => true
  | t :: _ => t == last
  | [] => false

mutual

/-- One node. Block collections are allowed in a block; in an indentless place a sequence may
start without being indented. -/
def readNode (handles : Handles) (block indentless : Bool) (done : List Event)
    (tokens : List Token) : Nat → Reading
  | 0 => none
  | fuel + 1 => do
    if let .alias name :: rest := tokens then some (.alias name :: done, rest)
    else
      let (p, rest) ← readProperties handles tokens
      match rest with
      | .blockEntry :: _ =>
        if indentless then readIndentless handles (.sequence p.anchor p.tag :: done) rest fuel
        else readBare p done rest
      | .scalar text style :: rest =>
        let tag := if p.tag = some "!" then none else p.tag
        some (.scalar p.anchor tag text style :: done, rest)
      | .flowSequence :: rest =>
        readFlowSequence handles true (.sequence p.anchor p.tag :: done) rest fuel
      | .flowMapping :: rest =>
        readFlowMapping handles true (.mapping p.anchor p.tag :: done) rest fuel
      | .blockSequence :: rest =>
        if block then readBlockSequence handles (.sequence p.anchor p.tag :: done) rest fuel
        else readBare p done (.blockSequence :: rest)
      | .blockMapping :: rest =>
        if block then readBlockMapping handles (.mapping p.anchor p.tag :: done) rest fuel
        else readBare p done (.blockMapping :: rest)
      | rest => readBare p done rest

def readBare (p : Properties) (done : List Event) (rest : List Token) : Reading :=
  if p.anchor.isNone ∧ p.tag.isNone then none
  else some (.scalar p.anchor p.tag "" .plain :: done, rest)

def readBlockSequence (handles : Handles) (done : List Event) (tokens : List Token) :
    Nat → Reading
  | 0 => none
  | fuel + 1 =>
    match tokens with
    | .blockEntry :: rest => do
      let (done, rest) ← if endsEntry rest then some (emptyScalar :: done, rest)
        else readNode handles true false done rest fuel
      readBlockSequence handles done rest fuel
    | .blockEnd :: rest => some (.sequenceEnd :: done, rest)
    | _ => none

def readIndentless (handles : Handles) (done : List Event) (tokens : List Token) : Nat → Reading
  | 0 => none
  | fuel + 1 =>
    match tokens with
    | .blockEntry :: rest => do
      let (done, rest) ← if endsIndentless rest then some (emptyScalar :: done, rest)
        else readNode handles true false done rest fuel
      readIndentless handles done rest fuel
    | rest => some (.sequenceEnd :: done, rest)

def readBlockMapping (handles : Handles) (done : List Event) (tokens : List Token) :
    Nat → Reading
  | 0 => none
  | fuel + 1 =>
    match tokens with
    | .key :: rest => do
      let (done, rest) ← if endsPair rest then some (emptyScalar :: done, rest)
        else readNode handles true true done rest fuel
      let (done, rest) ← match rest with
        | .value :: rest =>
          if endsPair rest then some (emptyScalar :: done, rest)
          else readNode handles true true done rest fuel
        | rest => some (emptyScalar :: done, rest)
      readBlockMapping handles done rest fuel
    | .blockEnd :: rest => some (.mappingEnd :: done, rest)
    | _ => none

def readFlowSequence (handles : Handles) (isFirst : Bool) (done : List Event)
    (tokens : List Token) : Nat → Reading
  | 0 => none
  | fuel + 1 => do
    if let .flowSequenceEnd :: rest := tokens then some (.sequenceEnd :: done, rest)
    else
      let tokens ← if isFirst then some tokens else match tokens with
        | .flowEntry :: rest => some rest
        | _ => none
      match tokens with
      | .flowSequenceEnd :: rest => some (.sequenceEnd :: done, rest)
      | .key :: rest =>
        let (done, rest) ← readPair handles (.mapping none none :: done) rest fuel
        readFlowSequence handles false done rest fuel
      | tokens =>
        let (done, rest) ← readNode handles false false done tokens fuel
        readFlowSequence handles false done rest fuel

/-- A mapping of one pair inside a flow sequence, after the mark of its key. A missing key
takes the token after the mark with it. -/
def readPair (handles : Handles) (done : List Event) (tokens : List Token) : Nat → Reading
  | 0 => none
  | fuel + 1 => do
    let (done, rest) ← if endsFlowKey .flowSequenceEnd tokens then
        some (emptyScalar :: done, tokens.tail)
      else readNode handles false false done tokens fuel
    let (done, rest) ← match rest with
      | .value :: rest =>
        if endsFlowValue .flowSequenceEnd rest then some (emptyScalar :: done, rest)
        else readNode handles false false done rest fuel
      | rest => some (emptyScalar :: done, rest)
    some (.mappingEnd :: done, rest)

def readFlowMapping (handles : Handles) (isFirst : Bool) (done : List Event)
    (tokens : List Token) : Nat → Reading
  | 0 => none
  | fuel + 1 => do
    if let .flowMappingEnd :: rest := tokens then some (.mappingEnd :: done, rest)
    else
      let tokens ← if isFirst then some tokens else match tokens with
        | .flowEntry :: rest => some rest
        | _ => none
      match tokens with
      | .flowMappingEnd :: rest => some (.mappingEnd :: done, rest)
      | .key :: rest =>
        let (done, rest) ← if endsFlowKey .flowMappingEnd rest then
            some (emptyScalar :: done, rest)
          else readNode handles false false done rest fuel
        let (done, rest) ← match rest with
          | .value :: rest =>
            if endsFlowValue .flowMappingEnd rest then some (emptyScalar :: done, rest)
            else readNode handles false false done rest fuel
          | rest => some (emptyScalar :: done, rest)
        readFlowMapping handles false done rest fuel
      | tokens =>
        let (done, rest) ← readNode handles false false done tokens fuel
        readFlowMapping handles false (emptyScalar :: done) rest fuel

end

def readDirectives (versioned : Bool) (handles : Handles) :
    List Token → Option (Handles × List Token)
  | .version major minor :: rest =>
    if versioned ∨ major ≠ 1 ∨ (minor ≠ 1 ∧ minor ≠ 2) then none
    else readDirectives true handles rest
  | .tagHandle handle start :: rest =>
    if (handles.lookup handle).isSome then none
    else readDirectives versioned ((handle, start) :: handles) rest
  | rest => some (handles, rest)

def dropEnds : List Token → List Token
  | .documentEnd :: rest => dropEnds rest
  | rest => rest

def startsDocument : List Token → Bool
  | .version .. :: _ | .tagHandle .. :: _ | .documentStart :: _ => true
  | _ => false

def readContent (handles : Handles) (tokens : List Token) : Reading :=
  match tokens with
  | [] => some ([emptyScalar], [])
  | .documentEnd :: _ => some ([emptyScalar], tokens)
  | _ =>
    if startsDocument tokens then some ([emptyScalar], tokens)
    else readNode handles true false [] tokens (2 * tokens.length + 2)

def readDocuments (isFirst : Bool) (done : List (List Event)) (tokens : List Token) :
    Nat → Option (List (List Event))
  | 0 => none
  | fuel + 1 => do
    let tokens := if isFirst then tokens else dropEnds tokens
    if tokens.isEmpty then some done.reverse
    else
      let (events, rest) ←
        if isFirst ∧ !startsDocument tokens then
          readNode defaultHandles true false [] tokens (2 * tokens.length + 2)
        else do
          let (handles, rest) ← readDirectives false [] tokens
          match rest with
          | .documentStart :: rest => readContent (handles ++ defaultHandles) rest
          | _ => none
      let rest := match rest with
        | .documentEnd :: rest => rest
        | rest => rest
      readDocuments false (events.reverse :: done) rest fuel

def documents? (text : String) : Option (List (List Event)) := do
  let tokens ← tokens? text
  readDocuments true [] tokens (tokens.length + 1)

end LintGate.Yaml
