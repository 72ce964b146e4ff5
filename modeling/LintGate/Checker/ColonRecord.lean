import LintGate.Finding
import LintGate.Text.Lines
import LintGate.Text.Numeral

/-! Records of the form `file:line:column: text`, one on a line. Lines of another form are
passed over. -/
namespace LintGate

def position? (cs : List Char) : Option Nat :=
  (Text.unsigned? Text.limit32 (Text.trim cs)).filter (0 < ·)

def colonRecord? (line : List Char) : Option Finding := do
  let (file, rest) ← Text.cut? ':' line
  let (row, rest) ← Text.cut? ':' rest
  let (column, text) ← Text.cut? ':' rest
  let row ← position? row
  let column ← position? column
  let file := Text.trim file
  let text := Text.trim text
  if file.isEmpty ∨ text.isEmpty then none
  else some ⟨String.ofList file, some row, some column, String.ofList text⟩

def colonRecords (output : String) : List Finding :=
  (Text.lines output.toList).filterMap colonRecord?

end LintGate
