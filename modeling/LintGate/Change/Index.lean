import LintGate.Change.LineSet
import LintGate.Named

/-! The lines that a change touches, file by file. A file that is absent is no part of the
change; a file with no lines changed without lines of its own, as in a rename. -/
namespace LintGate

structure ChangedLines where
  entries : List (String × LineSet)
  ascending : Named.Ascending entries
deriving DecidableEq, Repr

namespace ChangedLines

def empty : ChangedLines := ⟨[], List.Pairwise.nil⟩

def update (c : ChangedLines) (file : String) (f : LineSet → LineSet) : ChangedLines :=
  ⟨Named.upsert file (f .empty) f c.entries, Named.upsertAscending c.ascending⟩

def touch (c : ChangedLines) (file : String) : ChangedLines := c.update file id

def insert (c : ChangedLines) (file : String) (line : Nat) : ChangedLines :=
  c.update file (·.insert line)

def extend (c : ChangedLines) (file : String) (lines : List Nat) : ChangedLines :=
  c.update file (·.insertAll lines)

def retain (c : ChangedLines) (keep : String → Bool) : ChangedLines :=
  ⟨c.entries.filter (fun e => keep e.1), c.ascending.filter _⟩

def erase (c : ChangedLines) (file : String) : ChangedLines := c.retain (· ≠ file)

def ofPairs (pairs : List (String × List Nat)) : ChangedLines :=
  pairs.foldl (fun c pair => c.extend pair.1 pair.2) empty

def lines? (c : ChangedLines) (file : String) : Option LineSet := c.entries.lookup file

def isTouched (c : ChangedLines) (file : String) : Bool := (c.lines? file).isSome

def contains (c : ChangedLines) (file : String) (line : Nat) : Bool :=
  (c.lines? file).any (·.contains line)

def files (c : ChangedLines) : List String := c.entries.map (·.1)

def size (c : ChangedLines) : Nat := c.entries.length

def isEmpty (c : ChangedLines) : Bool := c.entries.isEmpty

/-- Whether something found at a line of a file belongs to the change. What has no line cannot
be told apart and always belongs to it. -/
def keeps (c : ChangedLines) (file : String) : Option Nat → Bool
  | none => true
  | some line => c.contains file line

end ChangedLines

end LintGate
