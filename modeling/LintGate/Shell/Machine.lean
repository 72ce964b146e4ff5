import LintGate.Shell.Reader
import LintGate.Shell.Pattern
import LintGate.Shell.Tool
import LintGate.Text.Utf8

/-! The state of a shell, and how it finds files and programs. -/
namespace LintGate.Shell

inductive Sink where
  | buffer (index : Nat)
  | file (names : List String)
  | nowhere
deriving DecidableEq, Repr

structure Machine where
  tree : FileTree
  directory : Place
  bindings : List (String × String)
  exported : List String
  arguments : List String
  name : String
  line : Nat
  depth : Nat
  functions : List (String × Script)
  traps : List (Nat × String)
  status : Nat
  strict : Bool
  guarded : Bool
  input : Stream
  out : Sink
  err : Sink
  buffers : Array ByteArray
  elapsed : Nat

inductive Flow where
  | leave
  | broken (levels : Nat)
  | continued (levels : Nat)
  | returned
  | killed (signal : Nat)
  | endless (cycle : ByteArray)

/-- Actions change the state and may end a script early; the state stays changed then. -/
abbrev Act := ExceptT Flow (StateM Machine)

def topPath : String := "/tree"

def toolDirectories : List String := ["/bin", "/usr/bin"]

def defaultPath : String := "/usr/local/sbin:/usr/local/bin:/usr/sbin:/usr/bin:/sbin:/bin"

namespace Machine

def value? (m : Machine) (name : String) : Option String := m.bindings.lookup name

def setVariable (m : Machine) (name value : String) : Machine :=
  { m with bindings := (name, value) :: m.bindings.filter (fun entry => entry.1 != name) }

def environment (m : Machine) : List (String × String) :=
  m.bindings.filter (fun entry => m.exported.contains entry.1)

def locate (m : Machine) (path : String) : Except ReadError Place :=
  if path = topPath then .ok (.inside [])
  else match Text.after? (topPath ++ "/").toList path.toList with
    | some rest => m.tree.locateFrom (.inside []) ("./" ++ String.ofList rest)
    | none => m.tree.locateFrom m.directory path

def namesOf (m : Machine) (path : String) : List String :=
  let start := match m.directory with
    | .inside names => if Path.isAbsolute path then [] else names
    | .outside _ => []
  (Path.components path).foldl (fun names c =>
    match c with
    | .name s => names ++ [s]
    | .up => names.dropLast
    | _ => names) start

def readFile (m : Machine) (path : String) : Except ReadError Stream :=
  if path = "/dev/null" then .ok .empty
  else if path = "/dev/zero" then .ok ⟨.empty, ⟨#[0]⟩⟩
  else if path = "/dev/stdin" then .ok m.input
  else match m.locate path with
    | .error e => .error e
    | .ok place =>
      match m.tree.nodeAt? place with
      | some (.file bytes _) => .ok (.ofBytes bytes)
      | some .directory => .error .isDirectory
      | none => .error .missing

def namesBelow (nodes : List (List String × Node)) (names : List String) : List String :=
  let below := nodes.filterMap (fun (path, _) =>
    if path.length = names.length + 1 ∧ names.isPrefixOf path then path.getLast? else none)
  below.mergeSort (fun a b => decide (a ≤ b))

def childrenOf (m : Machine) : Place → List String
  | .inside names => namesBelow m.tree.nodes names
  | .outside names => namesBelow m.tree.outside names

def listDirectory (m : Machine) (path : String) : Except ReadError (List String) :=
  match m.locate path with
  | .error e => .error e
  | .ok place =>
    match m.tree.nodeAt? place with
    | some .directory => .ok (m.childrenOf place)
    | some (.file ..) => .error .notDirectory
    | none => .error .missing

def surroundings (m : Machine) : Surroundings :=
  ⟨m.input, m.readFile, m.listDirectory, m.environment⟩

def place (m : Machine) : String :=
  match m.directory with
  | .outside [] => "/"
  | .outside names => String.join (names.map ("/" ++ ·))
  | .inside names => String.join (topPath :: names.map ("/" ++ ·))

def emit (m : Machine) (sink : Sink) (bytes : ByteArray) : Machine :=
  match sink with
  | .nowhere => m
  | .buffer index => { m with buffers := m.buffers.modify index (· ++ bytes) }
  | .file names =>
    match m.tree.node? names with
    | some (.file old executable) =>
      { m with tree := m.tree.set names (.file (old ++ bytes) executable) }
    | _ => { m with tree := m.tree.set names (.file bytes false) }

end Machine

inductive Program where
  | shell
  | environment
  | builtin (name : String)
  | tool (run : Tool)
  | script (path : String) (bytes : ByteArray)

inductive LaunchError where
  | missing
  | denied
  | notDirectory
  | nameTooLong
  | badFormat
  | nulByte
deriving DecidableEq, Repr

def LaunchError.message : LaunchError → String
  | .missing => "No such file or directory (os error 2)"
  | .denied => "Permission denied (os error 13)"
  | .notDirectory => "Not a directory (os error 20)"
  | .nameTooLong => "File name too long (os error 36)"
  | .badFormat => "Exec format error (os error 8)"
  | .nulByte => "nul byte found in provided data"

def LaunchError.ofReadError : ReadError → LaunchError
  | .notDirectory => .notDirectory
  | .nameTooLong => .nameTooLong
  | .nulByte => .nulByte
  | _ => .missing

def shellNames : List String := ["sh", "dash", "bash"]

def toolNamed? (name : String) : Option Program :=
  if shellNames.contains name then some .shell
  else if name = "env" then some .environment
  else if ["test", "[", "pwd", "kill"].contains name then some (.builtin name)
  else (tools.lookup name).map .tool

def Machine.programAt (m : Machine) (path : String) : Except LaunchError Program :=
  let directory := ((Path.parent? path).getD "")
  match if toolDirectories.contains directory then
      (Path.fileName? path).bind toolNamed? else none with
  | some program => .ok program
  | none =>
    match m.locate path with
    | .error e => .error (.ofReadError e)
    | .ok place =>
      match m.tree.nodeAt? place with
      | some (.file bytes true) => .ok (.script path bytes)
      | some _ => .error .denied
      | none => .error .missing

/-- Looks for a program in some directories. A file that may not be run is passed over, but it
decides the error when there is no other. -/
def Machine.search (m : Machine) (name : String) (denied : Bool) :
    List String → Except LaunchError Program
  | [] => .error (if denied then .denied else .missing)
  | directory :: rest =>
    match m.programAt (Path.join (if directory.isEmpty then "." else directory) name) with
    | .ok program => .ok program
    | .error .denied => m.search name true rest
    | .error _ => m.search name denied rest

def Machine.program (m : Machine) (name : String) : Except LaunchError Program :=
  if name.toList.contains '\x00' then .error .nulByte
  else if name.isEmpty then .error .missing
  else if name.toList.contains '/' then m.programAt name
  else if name = "." ∨ name = ".." then .error .denied
  else if FileTree.maxNameBytes < name.utf8ByteSize then .error .nameTooLong
  else
    let path := (m.value? "PATH").getD defaultPath
    m.search name false ((Text.pieces (· == ':') path.toList).map String.ofList)

def interpreter? (bytes : ByteArray) : Option (List String) :=
  match bytes.data.toList with
  | 35 :: 33 :: rest =>
    let line := Text.lossy ⟨(rest.takeWhile (· != newline)).toArray⟩
    let cs := line.toList.dropWhile (fun c => c == ' ' || c == '\t')
    let isGap (c : Char) := c == ' ' || c == '\t'
    let name := cs.takeWhile (fun c => !isGap c)
    let argument := Text.trim (cs.dropWhile (fun c => !isGap c))
    if name.isEmpty then none
    else some (String.ofList name :: if argument.isEmpty then [] else [String.ofList argument])
  | _ => none

end LintGate.Shell
