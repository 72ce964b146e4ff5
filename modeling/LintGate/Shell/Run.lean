import LintGate.Shell.Field

/-! Running scripts. Each step spends fuel; a script that has none left counts as one that never
ends. -/
namespace LintGate.Shell

def signals : List (String × Nat × String) :=
  [("HUP", 1, "Hangup"), ("INT", 2, ""), ("QUIT", 3, "Quit"), ("ILL", 4, "Illegal instruction"),
   ("ABRT", 6, "Aborted"), ("FPE", 8, "Floating point exception"), ("KILL", 9, "Killed"),
   ("USR1", 10, "User defined signal 1"), ("SEGV", 11, "Segmentation fault"),
   ("USR2", 12, "User defined signal 2"), ("PIPE", 13, ""), ("ALRM", 14, "Alarm clock"),
   ("TERM", 15, "Terminated"), ("CHLD", 17, ""), ("CONT", 18, ""), ("STOP", 19, ""),
   ("TSTP", 20, ""), ("URG", 23, ""), ("WINCH", 28, "")]

def signalOf? (text : String) : Option Nat :=
  match inBase? 10 text.toList with
  | some n => some n
  | none =>
    let name := match text.toList with
      | 'S' :: 'I' :: 'G' :: rest => String.ofList rest
      | _ => text
    (signals.lookup name).map (·.1)

def signalText (signal : Nat) : String :=
  ((signals.find? (fun entry => entry.2.1 == signal)).map (·.2.2)).getD ""

def harmless : List Nat := [0, 17, 18, 23, 28]

def untrapped : List Nat := [9, 19]

def stopping : List Nat := [19, 20]

def setStatus (status : Nat) : Act Unit := modify (fun m => { m with status := status })

def put (bytes : ByteArray) : Act Unit := modify (fun m => m.emit m.out bytes)

def complain (text : String) : Act Unit :=
  modify (fun m => m.emit m.err (m.name ++ ": " ++ toString m.line ++ ": " ++ text ++ "\n").toUTF8)

def abort {α : Type} (text : String) (status : Nat) : Act α := do
  complain text
  setStatus status
  throw .leave

def apply (e : Effect) : Act Unit := do
  modify (fun m =>
    let m := (m.emit m.out e.out).emit m.err e.err.toUTF8
    { m with status := e.status, input := e.input, elapsed := m.elapsed + e.delay })
  if e.stuck then throw (.endless .empty)
  else if !e.cycle.isEmpty then throw (.endless e.cycle)

/-- Runs something in a shell of its own: what it changes besides files and output is lost. -/
def isolate (body : Act Unit) : Act Unit := do
  let before ← get
  let restore : Act Unit := modify (fun after =>
    { before with tree := after.tree, buffers := after.buffers, elapsed := after.elapsed
                  status := after.status, input := after.input })
  tryCatch body (fun flow => do
    match flow with
    | .killed signal => restore; throw (.killed signal)
    | .endless cycle => restore; throw (.endless cycle)
    | _ => pure ())
  restore

def capture (body : Act Unit) : Act Stream := do
  let before ← get
  let index := before.buffers.size
  set { before with buffers := before.buffers.push .empty, out := .buffer index }
  let cycle ← tryCatch (do body; pure ByteArray.empty) (fun flow => do
    match flow with
    | .endless cycle => if cycle.isEmpty then throw flow else pure cycle
    | flow => throw flow)
  let after ← get
  let bytes := after.buffers[index]?.getD .empty
  set { after with buffers := after.buffers.extract 0 index, out := before.out }
  return ⟨bytes, cycle⟩

def guardStatus (body : Act Unit) : Act Unit := do
  let before ← get
  set { before with guarded := true }
  body
  modify (fun m => { m with guarded := before.guarded })

def checkStatus : Act Unit := do
  let m ← get
  if m.strict && !m.guarded && m.status != 0 then throw .leave

def changeDirectory (path : String) : Act Unit := do
  let m ← get
  match m.locate path with
  | .ok target =>
    if m.tree.isDirectoryAt target then set { m with directory := target, status := 0 }
    else do complain ("cd: can't cd to " ++ path); setStatus 2
  | .error _ => do complain ("cd: can't cd to " ++ path); setStatus 2

def signalAndTargets (args : List String) : Option Nat × List String :=
  match args with
  | "-s" :: name :: rest => (signalOf? name, rest)
  | first :: rest =>
    match first.toList with
    | '-' :: name => (signalOf? (String.ofList name), rest)
    | _ => (some 15, args)
  | [] => (none, [])

def signalToSelf (args : List String) : Act (Option Nat) := do
  let m ← get
  match signalAndTargets args with
  | (some n, target :: _) =>
    if target = toString (1000 + m.depth) then setStatus 0; return some n
    else complain "kill: No such process"; setStatus 1; return none
  | _ => complain "kill: bad usage"; setStatus 2; return none

def suffer (signal : Nat) : Act Unit :=
  if harmless.contains signal then pure ()
  else if stopping.contains signal then throw (.endless .empty)
  else throw (.killed signal)

def trapOf? (text : String) : Option Nat := if text = "EXIT" then some 0 else signalOf? text

def setTrap (args : List String) (m : Machine) : Machine :=
  match args with
  | [] => m
  | action :: names =>
    let numbers := names.filterMap trapOf?
    let others := m.traps.filter (fun entry => !numbers.contains entry.1)
    { m with traps := if action = "-" then others else numbers.map (·, action) ++ others }

def assignFields (names : List String) (fields : List String) : Machine → Machine :=
  match names, fields with
  | [], _ => id
  | [last], fields => fun m => m.setVariable last (Text.join " " fields)
  | name :: names, fields => fun m =>
    assignFields names fields.tail (m.setVariable name (fields.headD ""))

def readLine (args : List String) : Act Unit := do
  let names := args.filter (· != "-r")
  let m ← get
  let (line, ended, rest) := m.input.takeLine
  let fields := (Text.pieces m.separators.contains (Text.lossy line).toList).filter
    (fun field => !field.isEmpty)
  let m := assignFields names (fields.map String.ofList) { m with input := rest }
  set { m with status := if ended then 0 else 1 }

def setOptions : List String → Machine → Machine
  | [], m => m
  | "--" :: rest, m => { m with arguments := rest }
  | "-e" :: rest, m => setOptions rest { m with strict := true }
  | "+e" :: rest, m => setOptions rest { m with strict := false }
  | arg :: rest, m =>
    match arg.toList with
    | '-' :: letters =>
      setOptions rest (if letters.contains 'e' then { m with strict := true } else m)
    | '+' :: _ => setOptions rest m
    | _ => { m with arguments := arg :: rest }

def pair? (text : String) : Option (String × String) :=
  (Text.cut? '=' text.toList).map (fun (n, v) => (String.ofList n, String.ofList v))

def exportAll (args : List String) (m : Machine) : Machine :=
  args.foldl (fun m arg =>
    match pair? arg with
    | some (name, value) => { m.setVariable name value with exported := name :: m.exported }
    | none => { m with exported := arg :: m.exported }) m

def levels (args : List String) : Nat :=
  max 1 ((args.head?.bind (fun a => inBase? 10 a.toList)).getD 1)

def builtin? (name : String) (args : List String) : Option (Act Unit) :=
  match name with
  | ":" | "true" | "wait" | "umask" | "hash" => some (setStatus 0)
  | "trap" => some (do modify (setTrap args); setStatus 0)
  | "false" => some (setStatus 1)
  | "echo" => some (do let m ← get; apply (echo args m.surroundings))
  | "printf" => some (do
    let m ← get
    let e := printf args m.surroundings
    apply { e with err := "" }
    if !e.err.isEmpty then complain ((e.err.dropEnd 1).toString))
  | "exit" => some (do
    match args with
    | code :: _ =>
      match inBase? 10 code.toList with
      | some n => setStatus (n % 256); throw .leave
      | none => abort ("exit: Illegal number: " ++ code) 2
    | [] => throw .leave)
  | "return" => some (do
    match args.head?.bind (fun a => inBase? 10 a.toList) with
    | some n => setStatus (n % 256)
    | none => pure ()
    throw .returned)
  | "break" => some (throw (.broken (levels args)))
  | "continue" => some (throw (.continued (levels args)))
  | "cd" => some (changeDirectory (args.headD "."))
  | "pwd" => some (do let m ← get; put (m.place ++ "\n").toUTF8; setStatus 0)
  | "export" | "readonly" => some (do modify (exportAll args); setStatus 0)
  | "local" => some (do
    modify (fun m => args.foldl (fun m arg =>
      let (name, value) := (pair? arg).getD (arg, "")
      m.setVariable name value) m)
    setStatus 0)
  | "unset" => some (do
    modify (fun m => { m with bindings := m.bindings.filter (fun e => !args.contains e.1) })
    setStatus 0)
  | "shift" => some (modify (fun m =>
    { m with arguments := m.arguments.drop (levels args), status := 0 }))
  | "set" => some (do modify (setOptions args); setStatus 0)
  | "read" => some (readLine args)
  | "test" => some (testStatus args)
  | "[" => some (
    if args.getLast? = some "]" then testStatus args.dropLast
    else do complain "[: missing ]"; setStatus 2)
  | _ => none
where
  testStatus (args : List String) : Act Unit := do
    let m ← get
    match m.test args with
    | .ok result => setStatus (if result then 0 else 1)
    | .error text => complain (name ++ ": " ++ text); setStatus 2

inductive ScriptSource where
  | text (source : String)
  | file (path : String)
  | input
  | missing
deriving DecidableEq, Repr

structure ShellCall where
  script : ScriptSource
  name : String
  arguments : List String
  strict : Bool
deriving DecidableEq, Repr

def ShellCall.parse (called : String) (strict : Bool) : List String → ShellCall
  | [] => ⟨.input, called, [], strict⟩
  | arg :: rest =>
    match arg.toList with
    | '-' :: c :: letters =>
      let strict := strict || (c :: letters).contains 'e'
      if (c :: letters).contains 'c' then
        match rest with
        | source :: name :: arguments => ⟨.text source, name, arguments, strict⟩
        | [source] => ⟨.text source, called, [], strict⟩
        | [] => ⟨.missing, called, [], strict⟩
      else ShellCall.parse called strict rest
    | _ => ⟨.file arg, called, rest, strict⟩

mutual

def expandPart (part : Part) (fuel : Nat) : Act (List Fragment) :=
  match fuel with
  | 0 => throw (.endless .empty)
  | fuel + 1 => do
    let value (text : String) (quoted : Bool) : Act (List Fragment) := do
      let m ← get
      if quoted then return [.whole text true]
      else return splitFields m.separators text.toList
    match part with
    | .literal text quoted => return [.whole text quoted]
    | .output source quoted =>
      let stream ← capture (isolate (runSource source fuel))
      if stream.isEndless then throw (.endless .empty)
      value (outputText stream.bytes) quoted
    | .arithmetic source quoted =>
      let text ← expandText (wordOf source true) fuel
      let m ← get
      let numbers := m.bindings.filterMap (fun (name, value) =>
        (signedConstant? value).map (name, ·))
      match evaluate numbers text with
      | .error e => abort ("arithmetic expression: " ++ e.message ++ ": \"" ++ text ++ "\"") 2
      | .ok (n, after) =>
        let changed := after.take (after.length - numbers.length)
        modify (fun m =>
          changed.reverse.foldl (fun m (name, n) => m.setVariable name (toString n)) m)
        value (toString n) quoted
    | .parameter "@" "" _ true =>
      let m ← get
      return (m.arguments.map (fun a => [Fragment.whole a true])).intersperse [.cut] |>.flatten
    | .parameter "@" "" _ false | .parameter "*" "" _ false =>
      let m ← get
      return (m.arguments.map (fun a => splitFields m.separators a.toList)).intersperse [.cut]
        |>.flatten
    | .parameter name "" _ quoted =>
      let m ← get
      value ((m.parameter? name).getD "") quoted
    | .parameter name "length" _ quoted =>
      let m ← get
      value (toString ((m.parameter? name).getD "").length) quoted
    | .parameter name operator word quoted =>
      let m ← get
      let current := m.parameter? name
      let present := if operator.startsWith ":" then current.any (fun s => !s.isEmpty)
        else current.isSome
      let kind := if operator.startsWith ":" then (operator.drop 1).toString else operator
      match kind with
      | "-" =>
        if present then value (current.getD "") quoted
        else expandWord (wordOf word quoted) fuel
      | "+" => if present then expandWord (wordOf word quoted) fuel else return []
      | "=" =>
        if present then value (current.getD "") quoted
        else
          let text ← expandText (wordOf word quoted) fuel
          modify (fun m => m.setVariable name text)
          value text quoted
      | "?" =>
        if present then value (current.getD "") quoted
        else
          let text ← expandText (wordOf word quoted) fuel
          abort (name ++ ": " ++ if text.isEmpty then "parameter not set" else text) 2
      | _ =>
        let fragments ← expandWord (wordOf word false) fuel
        let pattern := patternOf fragments
        let cs := (current.getD "").toList
        let longest := operator.length = 2
        let left := if operator.startsWith "#" then pattern.dropStart longest cs
          else pattern.dropEnd longest cs
        value (String.ofList left) quoted
termination_by structural fuel

def expandWord (word : Word) (fuel : Nat) : Act (List Fragment) :=
  match fuel with
  | 0 => throw (.endless .empty)
  | fuel + 1 => do
    let fragments ← word.mapM (fun part => expandPart part fuel)
    return fragments.flatten
termination_by structural fuel

def expandText (word : Word) (fuel : Nat) : Act String :=
  match fuel with
  | 0 => throw (.endless .empty)
  | fuel + 1 => do
    let fragments ← expandWord word fuel
    return String.join (fragments.map (fun
      | .text p => p.text
      | .cut => " "))
termination_by structural fuel

def expandFields (words : List Word) (fuel : Nat) : Act (List String) :=
  match fuel with
  | 0 => throw (.endless .empty)
  | fuel + 1 => do
    let fields ← words.mapM (fun word => do
      let fragments ← expandWord word fuel
      let m ← get
      return (assemble none fragments).flatMap m.globbed)
    return fields.flatten
termination_by structural fuel

def redirect (redirects : List Redirect) (fuel : Nat) : Act Bool :=
  match fuel with
  | 0 => throw (.endless .empty)
  | fuel + 1 =>
    match redirects with
    | [] => return true
    | .fromFile _ file :: rest => do
      let path ← expandText file fuel
      let m ← get
      match m.readFile path with
      | .ok stream =>
        set { m with input := stream }
        redirect rest fuel
      | .error _ =>
        complain ("cannot open " ++ path ++ ": No such file")
        return false
    | .fromText _ text :: rest => do
      let text ← expandText text fuel
      modify (fun m => { m with input := .ofBytes text.toUTF8 })
      redirect rest fuel
    | .toFile descriptor append file :: rest => do
      let path ← expandText file fuel
      let m ← get
      let names := m.namesOf path
      let connect (sink : Sink) (m : Machine) : Machine :=
        if descriptor = 2 then { m with err := sink } else { m with out := sink }
      if path = "/dev/null" then set (connect .nowhere m)
      else if path = "/dev/stdout" then set (connect m.out m)
      else if path = "/dev/stderr" then set (connect m.err m)
      else if Path.isAbsolute path ∨ m.tree.node? names matches some .directory ∨
          !m.tree.isDirectoryAt (.inside names.dropLast) then
        complain ("cannot create " ++ path ++ ": Directory nonexistent")
        return false
      else
        let old := match m.tree.node? names with
          | some (.file bytes executable) => (bytes, executable)
          | _ => (.empty, false)
        let node := Node.file (if append then old.1 else .empty) old.2
        set (connect (.file names) { m with tree := m.tree.set names node })
      redirect rest fuel
    | .copy descriptor other :: rest => do
      let target ← expandText other fuel
      modify (fun m =>
        match descriptor, target with
        | 1, "2" => { m with out := m.err }
        | 2, "1" => { m with err := m.out }
        | 1, "-" => { m with out := .nowhere }
        | 2, "-" => { m with err := .nowhere }
        | 0, "-" => { m with input := .empty }
        | _, _ => m)
      redirect rest fuel
termination_by structural fuel

def withRedirects (redirects : List Redirect) (body : Act Unit) (fuel : Nat) : Act Unit :=
  match fuel with
  | 0 => throw (.endless .empty)
  | fuel + 1 => do
    let before ← get
    let replacesInput := redirects.any (fun
      | .fromFile .. | .fromText .. => true
      | .copy descriptor _ => descriptor == 0
      | .toFile .. => false)
    let restore : Act Unit := modify (fun m =>
      { m with out := before.out, err := before.err
               input := if replacesInput then before.input else m.input })
    if ← redirect redirects fuel then
      tryCatch body (fun flow => do restore; throw flow)
    else setStatus 2
    restore
termination_by structural fuel

/-- Stages of a pipeline, each with the output of the one before as its input. All of them run at
the same time. -/
def runStages (stages : List Script) (fuel : Nat) : Act Unit :=
  match fuel with
  | 0 => throw (.endless .empty)
  | fuel + 1 =>
    match stages with
    | [] => pure ()
    | [last] => isolate (run last fuel)
    | stage :: rest => do
      let before ← get
      let stream ← capture (isolate (run stage fuel))
      let after ← get
      set { after with input := stream, elapsed := before.elapsed }
      runStages rest fuel
      modify (fun m => { m with elapsed := max m.elapsed after.elapsed, input := after.input })
termination_by structural fuel

def runLoop (stopsWhen : Bool) (condition body : Script) (fuel : Nat) : Act Unit :=
  match fuel with
  | 0 => throw (.endless .empty)
  | fuel + 1 => do
    guardStatus (run condition fuel)
    let m ← get
    if (m.status == 0) == stopsWhen then setStatus 0
    else
      if ← runBody body fuel then runLoop stopsWhen condition body fuel
termination_by structural fuel

def runBody (body : Script) (fuel : Nat) : Act Bool :=
  match fuel with
  | 0 => throw (.endless .empty)
  | fuel + 1 => tryCatch (do run body fuel; return true) (fun flow =>
    match flow with
    | .broken levels => if levels ≤ 1 then return false else throw (.broken (levels - 1))
    | .continued levels => if levels ≤ 1 then return true else throw (.continued (levels - 1))
    | flow => throw flow)
termination_by structural fuel

def runEach (name : String) (body : Script) (values : List String) (fuel : Nat) : Act Unit :=
  match fuel with
  | 0 => throw (.endless .empty)
  | fuel + 1 =>
    match values with
    | [] => pure ()
    | value :: rest => do
      modify (fun m => m.setVariable name value)
      if ← runBody body fuel then runEach name body rest fuel
termination_by structural fuel

def runArms (text : String) (arms : List (List Word × Script)) (fuel : Nat) : Act Unit :=
  match fuel with
  | 0 => throw (.endless .empty)
  | fuel + 1 =>
    match arms with
    | [] => setStatus 0
    | (patterns, body) :: rest => do
      let found ← patterns.anyM (fun word => do
        let fragments ← expandWord word fuel
        return (patternOf fragments).accepts text.toList)
      if found then run body fuel else runArms text rest fuel
termination_by structural fuel

def runBranches (branches : List (Script × Script)) (otherwise : Script) (fuel : Nat) : Act Unit :=
  match fuel with
  | 0 => throw (.endless .empty)
  | fuel + 1 =>
    match branches with
    | [] => do
      setStatus 0
      run otherwise fuel
    | (condition, body) :: rest => do
      guardStatus (run condition fuel)
      let m ← get
      if m.status = 0 then run body fuel else runBranches rest otherwise fuel
termination_by structural fuel

def runItems (items : List Script) (fuel : Nat) : Act Unit :=
  match fuel with
  | 0 => throw (.endless .empty)
  | fuel + 1 =>
    match items with
    | [] => pure ()
    | [last] => run last fuel
    | item :: rest => do
      run item fuel
      runItems rest fuel
termination_by structural fuel

def runSource (source : String) (fuel : Nat) : Act Unit :=
  match fuel with
  | 0 => throw (.endless .empty)
  | fuel + 1 =>
    match Script.parse? source with
    | some script => run script fuel
    | none => abort "Syntax error" 2
termination_by structural fuel

def runTrap (signal : Nat) (otherwise : Act Unit) (fuel : Nat) : Act Unit :=
  match fuel with
  | 0 => throw (.endless .empty)
  | fuel + 1 => do
    let m ← get
    match m.traps.lookup signal with
    | some action => do
      runSource action fuel
      modify (fun after => { after with status := m.status })
    | none => otherwise
termination_by structural fuel

def runWhole (source : String) (fuel : Nat) : Act Unit :=
  match fuel with
  | 0 => throw (.endless .empty)
  | fuel + 1 => do
    tryCatch (runSource source fuel) (fun flow =>
      match flow with
      | .killed signal => throw (.killed signal)
      | .endless cycle => throw (.endless cycle)
      | _ => pure ())
    runTrap 0 (pure ()) fuel
termination_by structural fuel

def runShell (call : ShellCall) (fuel : Nat) : Act Unit :=
  match fuel with
  | 0 => throw (.endless .empty)
  | fuel + 1 => isolate (do
    modify (fun m => { m with
      bindings := m.environment, functions := [], traps := [], arguments := call.arguments
      name := call.name, line := 0, depth := m.depth + 1, status := 0, strict := call.strict
      guarded := false })
    let m ← get
    match call.script with
    | .text source => runWhole source fuel
    | .input => runWhole (Text.lossy m.input.bytes) fuel
    | .missing => abort "-c requires an argument" 2
    | .file path =>
      match m.readFile path with
      | .error _ => abort ("cannot open " ++ path ++ ": No such file") 2
      | .ok stream =>
        set { m with name := path }
        runWhole (Text.lossy stream.bytes) fuel)
termination_by structural fuel

def runProgram (program : Program) (name : String) (args : List String) (fuel : Nat) : Act Unit :=
  match fuel with
  | 0 => throw (.endless .empty)
  | fuel + 1 => do
    let m ← get
    match program with
    | .tool tool => apply (tool args m.surroundings)
    | .builtin name => isolate ((builtin? name args).getD (setStatus 0))
    | .shell => runShell (.parse name false args) fuel
    | .environment =>
      let assignments := args.takeWhile (fun a => (pair? a).isSome)
      match args.dropWhile (fun a => (pair? a).isSome) with
      | [] => do
        modify (exportAll assignments)
        let inner ← get
        put (String.join (inner.environment.map (fun (n, v) => n ++ "=" ++ v ++ "\n"))).toUTF8
        modify (fun after =>
          { after with bindings := m.bindings, exported := m.exported, status := 0 })
      | name :: args => isolate (do
        modify (exportAll assignments)
        let inner ← get
        match inner.program name with
        | .ok program => runProgram program name args fuel
        | .error _ =>
          modify (fun m => m.emit m.err
            ("env: '" ++ name ++ "': No such file or directory\n").toUTF8)
          setStatus 127)
    | .script path bytes =>
      match interpreter? bytes with
      | none => runShell ⟨.text (Text.lossy bytes), path, args, false⟩ fuel
      | some line =>
        match m.program (line.headD "") with
        | .ok program => runProgram program (line.headD "") (line.tail ++ path :: args) fuel
        | .error _ => do complain (name ++ ": not found"); setStatus 127
termination_by structural fuel

def runChild (name : String) (args : List String) (fuel : Nat) : Act Unit :=
  match fuel with
  | 0 => throw (.endless .empty)
  | fuel + 1 => do
    let m ← get
    match m.program name with
    | .error .denied => complain (name ++ ": Permission denied"); setStatus 126
    | .error _ => complain (name ++ ": not found"); setStatus 127
    | .ok program =>
      tryCatch (runProgram program name args fuel) (fun flow =>
        match flow with
        | .killed signal => do
          let text := signalText signal
          modify (fun m => if text.isEmpty then m else m.emit m.err (text ++ "\n").toUTF8)
          setStatus (128 + signal)
        | flow => throw flow)
termination_by structural fuel

def runWords (name : String) (args : List String) (fuel : Nat) : Act Unit :=
  match fuel with
  | 0 => throw (.endless .empty)
  | fuel + 1 => do
    let m ← get
    match m.functions.lookup name, builtin? name args with
    | some body, _ =>
      set { m with arguments := args }
      tryCatch (run body fuel) (fun flow =>
        match flow with
        | .returned => pure ()
        | flow => throw flow)
      modify (fun after => { after with arguments := m.arguments })
    | none, some action => action
    | none, none =>
      match name, args with
      | "eval", args => runSource (Text.join " " args) fuel
      | "kill", args => do
        match ← signalToSelf args with
        | some signal =>
          if signal = 0 then pure ()
          else if untrapped.contains signal then suffer signal
          else runTrap signal (suffer signal) fuel
        | none => pure ()
      | ".", file :: _ =>
        match m.readFile file with
        | .ok stream => runSource (Text.lossy stream.bytes) fuel
        | .error _ => abort (".: cannot open " ++ file ++ ": No such file") 2
      | "command", name :: args => runChild name args fuel
      | "exec", name :: args => do
        match m.program name with
        | .error .denied => abort ("exec: " ++ name ++ ": Permission denied") 126
        | .error _ => abort ("exec: " ++ name ++ ": not found") 127
        | .ok program => runProgram program name args fuel
        throw .leave
      | name, args => runChild name args fuel
termination_by structural fuel

def runSimple (line : Nat) (assignments : List (String × Word)) (words : List Word)
    (redirects : List Redirect) (fuel : Nat) : Act Unit :=
  match fuel with
  | 0 => throw (.endless .empty)
  | fuel + 1 => do
    modify (fun m => { m with line := line })
    match ← expandFields words fuel with
    | [] =>
      setStatus 0
      assignments.forM (fun (name, word) => do
        let text ← expandText word fuel
        modify (fun m => m.setVariable name text))
      if !redirects.isEmpty then withRedirects redirects (pure ()) fuel
    | ["exec"] =>
      if ← redirect redirects fuel then setStatus 0 else setStatus 2
    | name :: args =>
      let before ← get
      assignments.forM (fun (name, word) => do
        let text ← expandText word fuel
        modify (fun m => { m.setVariable name text with exported := name :: m.exported }))
      withRedirects redirects (runWords name args fuel) fuel
      if !assignments.isEmpty then
        modify (fun m => { m with bindings := before.bindings, exported := before.exported })
    checkStatus
termination_by structural fuel

def run (script : Script) (fuel : Nat) : Act Unit :=
  match fuel with
  | 0 => throw (.endless .empty)
  | fuel + 1 =>
    match script with
    | .simple line assignments words redirects => runSimple line assignments words redirects fuel
    | .pipeline negated stages => do
      if negated then
        guardStatus (runStages stages fuel)
        modify (fun m => { m with status := if m.status = 0 then 1 else 0 })
      else
        runStages stages fuel
        checkStatus
    | .both left right => do
      guardStatus (run left fuel)
      let m ← get
      if m.status = 0 then run right fuel
    | .either left right => do
      guardStatus (run left fuel)
      let m ← get
      if m.status ≠ 0 then run right fuel
    | .sequence items => runItems items fuel
    | .background body => do
      let before ← get
      isolate (do modify (fun m => { m with input := .empty }); run body fuel)
      modify (fun m => { m with elapsed := before.elapsed, input := before.input, status := 0 })
    | .subshell body => do
      isolate (run body fuel)
      checkStatus
    | .redirected body redirects => withRedirects redirects (run body fuel) fuel
    | .conditional branches otherwise => runBranches branches otherwise fuel
    | .loop stopsWhen condition body => runLoop stopsWhen condition body fuel
    | .each name words body => do
      let m ← get
      let values ← match words with
        | some words => expandFields words fuel
        | none => pure m.arguments
      setStatus 0
      runEach name body values fuel
    | .choice word arms => do
      let text ← expandText word fuel
      runArms text arms fuel
    | .function name body =>
      modify (fun m => { m with functions := (name, body) :: m.functions, status := 0 })
termination_by structural fuel

end

end LintGate.Shell
