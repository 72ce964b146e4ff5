import LintGate.Filter.Basic
import LintGate.Files.Tree
import LintGate.Options.Decode

/-! What can be wrong with a configuration. All of it is found before any command is run. -/
namespace LintGate

inductive SetupError where
  | noConfig (root : String)
  | unreadable (path : String) (cause : ReadError)
  | unparsable (path : String)
  | unknownChecker (name : String) (known : List String)
  | badRule (checker : String) (bad : BadRule)
  | badOption (checker : String) (error : OptionError)
  | zeroJobs
  | badOutput (given : String)
deriving BEq, Repr

def SetupError.message : SetupError → String
  | .noConfig root =>
    "no configuration found in " ++ root ++ "; pass --config or add .patchlint.yml"
  | .unreadable path cause => "failed to read " ++ path ++ ": " ++ cause.message
  | .unparsable path => "failed to parse " ++ path ++ ": not a valid configuration"
  | .unknownChecker name known =>
    "unknown linter '" ++ name ++ "' (registered: " ++ Text.join ", " known ++ ")"
  | .badRule checker bad =>
    "linter '" ++ checker ++ "': bad filefilter rule '" ++ bad.rule ++ "': " ++
      bad.reason.message
  | .badOption checker error => "linter '" ++ checker ++ "': invalid option: " ++ error.message
  | .zeroJobs => "malformed configuration: jobs must be at least 1"
  | .badOutput given =>
    "malformed configuration: output must be 'human' or 'json', got '" ++ given ++ "'"

end LintGate
