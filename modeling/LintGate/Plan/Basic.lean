import LintGate.Checker.Registry
import LintGate.Config.Entry
import LintGate.Config.Error

/-! Plans: checkers with their filters and options. A plan is made of all entries before
anything runs, and the first entry that does not fit is the error. -/
namespace LintGate

structure Planned where
  checker : Checker
  filter : FileFilter
  job : Job

abbrev Plan := List Planned

namespace Planned

def ruleTexts (value : Json) : Except OptionError (List String) :=
  match value with
  | .list items => items.mapM (fun
    | .text rule => .ok rule
    | _ => .error .filterNotTexts)
  | _ => .error .filterNotTexts

def filterAndOptions (checker : Checker) (entry : Entry) :
    Except SetupError (FileFilter × Fields) := do
  let (rules, options) ← match Fields.take? "filefilter" entry.options with
    | none => .ok (checker.fileRules, entry.options)
    | some (value, options) =>
      match ruleTexts value with
      | .ok rules => .ok (rules, options)
      | .error error => .error (.badOption entry.name error)
  match FileFilter.parse rules with
  | .ok filter => .ok (filter, options)
  | .error bad => .error (.badRule entry.name bad)

def ofEntry (registry : Registry) (entry : Entry) : Except SetupError Planned :=
  match registry.get? entry.name with
  | none => .error (.unknownChecker entry.name registry.names)
  | some checker => do
    let (filter, options) ← filterAndOptions checker entry
    match checker.configure options with
    | .ok job => .ok ⟨checker, filter, job⟩
    | .error error => .error (.badOption entry.name error)

end Planned

def Plan.ofEntries (registry : Registry) (entries : List Entry) : Except SetupError Plan :=
  entries.mapM (Planned.ofEntry registry)

def Plan.names (plan : Plan) : List String := plan.map (·.checker.name)

end LintGate
