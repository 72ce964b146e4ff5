import LintGate.Path.Basic

/-! A directory tree as a value. Relative paths are looked up from the top of the tree. The top
lies right below the root directory, and absolute paths are looked up from there. -/
namespace LintGate

inductive Node where
  | directory
  | file (bytes : ByteArray) (executable : Bool)

/-- Nodes by the names on the way to them, from the top or, outside of the tree, from the root
directory. Directories on the way are nodes of their own. -/
structure FileTree where
  nodes : List (List String × Node)
  outside : List (List String × Node)

inductive ReadError where
  | missing
  | notDirectory
  | isDirectory
  | nameTooLong
  | nulByte
  | notText
deriving DecidableEq, Repr

def ReadError.message : ReadError → String
  | .missing => "No such file or directory (os error 2)"
  | .notDirectory => "Not a directory (os error 20)"
  | .isDirectory => "Is a directory (os error 21)"
  | .nameTooLong => "File name too long (os error 36)"
  | .nulByte => "file name contained an unexpected NUL byte"
  | .notText => "stream did not contain valid UTF-8"

def decodeText (bytes : ByteArray) : Except ReadError String :=
  match String.fromUTF8? bytes with
  | some text => .ok text
  | none => .error .notText

inductive Place where
  | inside (names : List String)
  | outside (names : List String)
deriving DecidableEq, Repr

def Place.up : Place → Place
  | .inside [] => .outside []
  | .inside names => .inside names.dropLast
  | .outside names => .outside names.dropLast

def Place.down (name : String) : Place → Place
  | .inside names => .inside (names ++ [name])
  | .outside names => .outside (names ++ [name])

namespace FileTree

def empty : FileTree := ⟨[], []⟩

def node? (tree : FileTree) : List String → Option Node
  | [] => some .directory
  | names => tree.nodes.lookup names

def nodeAt? (tree : FileTree) : Place → Option Node
  | .inside names => tree.node? names
  | .outside [] => some .directory
  | .outside names => tree.outside.lookup names

def set (tree : FileTree) (names : List String) (node : Node) : FileTree :=
  { tree with nodes := (names, node) :: tree.nodes.filter (fun entry => entry.1 ≠ names) }

def directoriesOf (names : List String) : List (List String) :=
  (List.range names.length).tail.map (fun n => names.take n)

def write (tree : FileTree) (path : String) (node : Node) : FileTree :=
  let names := (Path.components path).filterMap (fun
    | .name s => some s
    | _ => none)
  let tree := (directoriesOf names).foldl (fun tree directory =>
    if (tree.node? directory).isSome then tree else tree.set directory .directory) tree
  tree.set names node

def isDirectoryAt (tree : FileTree) (place : Place) : Bool :=
  match tree.nodeAt? place with
  | some .directory => true
  | _ => false

def maxNameBytes : Nat := 255

def maxPathBytes : Nat := 4095

def follow (tree : FileTree) (place : Place) (segment : List Char) : Except ReadError Place :=
  if !tree.isDirectoryAt place then .error .notDirectory
  else if Path.isIdle segment then .ok place
  else if segment = ['.', '.'] then .ok place.up
  else
    let name := String.ofList segment
    if maxNameBytes < name.utf8ByteSize then .error .nameTooLong
    else match tree.nodeAt? (place.down name) with
      | some _ => .ok (place.down name)
      | none => .error .missing

def locateFrom (tree : FileTree) (directory : Place) (path : String) : Except ReadError Place :=
  if path.isEmpty then .error .missing
  else if path.toList.contains '\x00' then .error .nulByte
  else if maxPathBytes < path.utf8ByteSize then .error .nameTooLong
  else
    let start := if Path.isAbsolute path then .outside [] else directory
    (Path.segments path.toList).foldlM (tree.follow) start

def locate (tree : FileTree) (path : String) : Except ReadError Place :=
  tree.locateFrom (.inside []) path

def readFrom (tree : FileTree) (directory : Place) (path : String) : Except ReadError ByteArray :=
  match tree.locateFrom directory path with
  | .error e => .error e
  | .ok place =>
    match tree.nodeAt? place with
    | some (.file bytes _) => .ok bytes
    | some .directory => .error .isDirectory
    | none => .error .missing

def read (tree : FileTree) (path : String) : Except ReadError ByteArray :=
  tree.readFrom (.inside []) path

def readText (tree : FileTree) (path : String) : Except ReadError String :=
  match tree.read path with
  | .error e => .error e
  | .ok bytes => decodeText bytes

def isFile (tree : FileTree) (path : String) : Bool := (tree.read path).isOk

def present (tree : FileTree) (path : String) : Bool := (tree.locate path).isOk

end FileTree

end LintGate
