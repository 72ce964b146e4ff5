import LintGate.Text.Blank

/-! Lines of a text. A line ends at a line feed, and a carriage return right before that
line feed belongs to the ending. The last line needs no ending; a carriage return at its
end is then part of the line. -/
namespace LintGate.Text

def dropReturn (cs : List Char) : List Char :=
  if cs.getLast? = some '\r' then cs.dropLast else cs

def closeLines : List (List Char) → List (List Char)
  | [] => []
  | [last] => if last.isEmpty then [] else [last]
  | p :: ps => dropReturn p :: closeLines ps

def lines (cs : List Char) : List (List Char) := closeLines (pieces (· == '\n') cs)

end LintGate.Text
