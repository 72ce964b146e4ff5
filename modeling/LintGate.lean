import LintGate.Main
import LintGate.Proofs.Change.Reading
import LintGate.Proofs.Plan.Suppression
import LintGate.Proofs.Change.Union
import LintGate.Proofs.Change.Sections
import LintGate.Proofs.Report.Aggregate
import LintGate.Proofs.Plan.Isolation
import LintGate.Proofs.Plan.Records
import LintGate.Proofs.Program.Ending
import LintGate.Proofs.Checker.ColonRecord
import LintGate.Proofs.Checker.Cpplint
import LintGate.Proofs.Filter.PlainRule
import LintGate.Proofs.Filter.LastMatch
import LintGate.Proofs.Checker.Header
import LintGate.Proofs.Checker.Probe
import LintGate.Proofs.Plan.Places
import LintGate.Proofs.Checker.WhitespaceFlaws
import LintGate.Proofs.Options.Builtin
import LintGate.Proofs.Plan.Validation
import LintGate.Proofs.Change.ModeChange
import LintGate.Proofs.Finding.Spelling
import LintGate.Proofs.Change.Supply
import LintGate.Proofs.Filter.Reread
import LintGate.Proofs.Report.Colours
import LintGate.Proofs.Config.Root
import LintGate.Proofs.Program.WorkingDirectory
import LintGate.Proofs.Change.Edits
