import LintGate.Text.Blank
import LintGate.Text.Cut

/-! Paths as text: components, joining, parents and relative paths. Nothing here looks at
files. -/
namespace LintGate.Path

inductive Component where
  | root
  | here
  | up
  | name (s : String)
deriving DecidableEq, Repr

def isAbsolute (path : String) : Bool := path.toList.head? == some '/'

def segments (cs : List Char) : List (List Char) := Text.pieces (· == '/') cs

def isIdle (segment : List Char) : Bool := segment.isEmpty || segment == ['.']

def Component.ofSegment? (segment : List Char) : Option Component :=
  if isIdle segment then none
  else if segment = ['.', '.'] then some .up
  else some (.name (String.ofList segment))

def components (path : String) : List Component :=
  match segments path.toList with
  | ['.'] :: rest => .here :: rest.filterMap Component.ofSegment?
  | segments =>
    if isAbsolute path then .root :: segments.filterMap Component.ofSegment?
    else segments.filterMap Component.ofSegment?

def Component.text : Component → String
  | .root => "/"
  | .here => "."
  | .up => ".."
  | .name s => s

def join (base path : String) : String :=
  if isAbsolute path then path
  else if base.isEmpty ∨ base.toList.getLast? = some '/' then base ++ path
  else base ++ "/" ++ path

def ofComponents (components : List Component) : String :=
  components.foldl (fun path c => join path c.text) ""

def dropIdleEnd (segments : List (List Char)) : List (List Char) :=
  (segments.reverse.dropWhile isIdle).reverse

def headAndBody (path : String) : List Char × List (List Char) :=
  match path.toList with
  | '/' :: rest => (['/'], segments rest)
  | '.' :: '/' :: rest => (['.'], segments ('/' :: rest))
  | ['.'] => (['.'], [])
  | cs => ([], segments cs)

def joinSegments : List (List Char) → List Char
  | [] => []
  | [s] => s
  | s :: rest => s ++ '/' :: joinSegments rest

/-- The path without its last component. A path of one relative component has the empty path
as parent; the empty path and the root have none. -/
def parent? (path : String) : Option String :=
  let (head, body) := headAndBody path
  match dropIdleEnd body with
  | [] => if head = ['.'] then some "" else none
  | body => some (String.ofList (head ++ joinSegments (dropIdleEnd body.dropLast)))

def fileName? (path : String) : Option String :=
  match (components path).getLast? with
  | some (.name s) => some s
  | _ => none

def extension? (path : String) : Option String := do
  let name ← fileName? path
  let reversed := name.toList.reverse
  let (last, before) ← Text.cut? '.' reversed
  if before.isEmpty then none else some (String.ofList last.reverse)

/-- Goes through two paths in step. `out` holds the components found, last first; while there
are none, equal components are skipped. -/
def climb : (out path base : List Component) → Option (List Component)
  | out, [], [] => some out.reverse
  | out, [], _ :: base => climb (.up :: out) [] base
  | out, path, [] => some (out.reverse ++ path)
  | out, a :: path, b :: base =>
    if out.isEmpty ∧ a = b then climb out path base
    else if b = .here then climb (a :: out) path base
    else if b = .up then none
    else some (out.reverse ++ .up :: (base.map (fun _ => .up) ++ a :: path))

def relative? (path base : String) : Option String :=
  if isAbsolute path = isAbsolute base then
    (climb [] (components path) (components base)).map ofComponents
  else if isAbsolute path then some path
  else none

end LintGate.Path
