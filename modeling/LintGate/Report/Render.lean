import LintGate.Checker.Registry
import LintGate.Json.Printer
import LintGate.Report.Basic
import LintGate.Text.Styled

/-! Reports and checker listings, for people and as JSON. -/
namespace LintGate

open Text (Span Style plainSpan)

def boldStyle : Style := ⟨true, none⟩

def errorStyle : Style := ⟨true, some .red⟩

def noteStyle : Style := ⟨true, some .blue⟩

def warnStyle : Style := ⟨true, some .yellow⟩

def okStyle : Style := ⟨true, some .green⟩

def errorMark : Span := ⟨errorStyle, "✖ error:"⟩

def noteMark : Span := ⟨noteStyle, "◆ note:"⟩

def Finding.spans (f : Finding) : List Span :=
  [⟨⟨false, some .red⟩, "✖"⟩, plainSpan " ", ⟨boldStyle, f.location⟩, plainSpan (" " ++ f.text)]

def CheckerRun.counts (run : CheckerRun) : String :=
  " files=" ++ toString run.files ++ " raw=" ++ toString run.rawCount ++ " kept=" ++
    toString run.kept

def CheckerRun.spans (width : Nat) (run : CheckerRun) : List Span :=
  plainSpan (Text.padded width run.name ++ " ") ::
    match run.failure with
    | some failure => [⟨errorStyle, "failed  "⟩, plainSpan (" " ++ failure.message)]
    | none =>
      if run.skipped then [⟨⟨false, some .grey⟩, "skipped  no files"⟩]
      else
        let label := if 0 < run.kept then ⟨warnStyle, "findings"⟩
          else ⟨⟨false, some .green⟩, "clean   "⟩
        [label, plainSpan run.counts]

def nameWidth (names : List String) : Nat :=
  names.foldl (fun width name => max width name.utf8ByteSize) 0

namespace Report

def footer (r : Report) : Span :=
  if r.ok then ⟨okStyle, "✔ ok"⟩
  else if 0 < r.failures.length then ⟨errorStyle, "✖ linter failure"⟩
  else ⟨warnStyle, "▲ findings"⟩

def summary (r : Report) : String :=
  "— Summary — messages=" ++ toString r.findings.length ++ " linters=" ++
    toString r.runs.length ++ " failed=" ++ toString r.failures.length

def lines (r : Report) : List (List Span) :=
  let gap := if r.findings.isEmpty || r.runs.isEmpty then [] else [[]]
  let width := nameWidth (r.runs.map (·.name))
  r.findings.map Finding.spans ++ gap ++ r.runs.map (CheckerRun.spans width) ++
    [[⟨boldStyle, r.summary⟩, plainSpan " ", r.footer]]

def human (r : Report) (coloured : Bool) : String := Text.renderLines coloured r.lines

end Report

def Mode.word : Mode → String
  | .whole => "static"
  | .diffAware => "diff_aware"

def Stage.word : Stage → String
  | .pending => "pending"
  | .selectingFiles => "selecting_files"
  | .invoking => "invoking"
  | .parsing => "parsing"
  | .filtering => "filtering"
  | .aggregated => "aggregated"
  | .failed => "failed"

def Verdict.word : Verdict → String
  | .clean => "clean"
  | .findingsPresent => "findings_present"
  | .executionFailed => "execution_failed"

def Json.ofOptionalNat : Option Nat → Json
  | none => .null
  | some n => .int n

def Finding.toJson (f : Finding) : Json :=
  .object [("filename", .text f.file), ("line", .ofOptionalNat f.line),
    ("column", .ofOptionalNat f.column), ("text", .text f.text)]

def CheckerRun.toJson (run : CheckerRun) : Json :=
  .object <|
    [("name", .text run.name), ("mode", .text run.mode.word), ("stage", .text run.stage.word),
      ("files", .int run.files), ("raw_count", .int run.rawCount), ("kept", .int run.kept)] ++
    match run.failure with
    | none => []
    | some failure => [("failure", .text failure.message)]

def Report.toJson (r : Report) : Json :=
  .object [("messages", .list (r.findings.map Finding.toJson)),
    ("per_linter_raw_count", .object (r.rawCounts.map (fun (name, n) => (name, .int n)))),
    ("linters", .list (r.runs.map CheckerRun.toJson)),
    ("ok", .bool r.ok), ("verdict", .text r.verdict.word)]

def Mode.column : Mode → String
  | .whole => "static    "
  | .diffAware => "diff-aware"

def Checker.spans (width : Nat) (c : Checker) : List Span :=
  [⟨boldStyle, Text.padded width c.name⟩,
    plainSpan (" " ++ c.mode.column ++ " " ++ Text.padded 8 (c.language.getD "-") ++ " " ++
      c.defaultOptions.compact)]

def Checker.toJson (c : Checker) : Json :=
  .object [("name", .text c.name), ("mode", .text c.mode.word),
    ("language", .ofOptionalText c.language), ("defaults", c.defaultOptions)]

namespace Registry

def human (r : Registry) (coloured : Bool) : String :=
  Text.renderLines coloured (r.checkers.map (Checker.spans (nameWidth r.names)))

def toJson (r : Registry) : Json := .list (r.checkers.map Checker.toJson)

end Registry

end LintGate
