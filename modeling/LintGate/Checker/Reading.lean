import LintGate.Checker.Basic

/-! Checks that read their files on their own. -/
namespace LintGate

/-- Findings of all files, told by name and text; bytes that are no text are passed over. -/
def checkEach (ctx : Context) (check : (file source : String) → List Finding) :
    List String → Except Failure (List Finding)
  | [] => .ok []
  | file :: rest =>
    let path := Path.join ctx.root file
    match ctx.tree.read path with
    | .error e => .error (.io ("cannot read " ++ path ++ ": " ++ e.message))
    | .ok bytes =>
      let found := match String.fromUTF8? bytes with
        | none => []
        | some source => check file source
      (checkEach ctx check rest).map (found ++ ·)

end LintGate
