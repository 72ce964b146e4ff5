import LintGate.Program.Basic
import LintGate.Shell.Launch

/-! A world in which commands are scripts of the tree and the tools that scripts use. -/
namespace LintGate

def scriptPath : String := Shell.topPath ++ "/bin:" ++ Shell.defaultPath

def launchIn (tree : FileTree) (directory : String) (timeout : Option Nat) : Runner :=
  Shell.Launcher.run ⟨tree, some directory, [("PATH", scriptPath)], timeout.map (1000 * ·)⟩

def World.scripted (tree : FileTree) (input : ByteArray) (coloured : Bool) : World :=
  ⟨tree, input, coloured, launchIn tree⟩

def readsInput (args : List String) : Bool :=
  match CommandLine.parse args with
  | .ok (.run options) => options.refspec.isNone && options.diffFile == some "-"
  | _ => false

end LintGate
