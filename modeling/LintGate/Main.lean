import LintGate.Program.Scripted

/-! The command line: it takes a picture of the current directory and answers from that. -/
namespace LintGate

def isRunnable (bytes : ByteArray) : Bool := (Shell.interpreter? bytes).isSome

partial def snapshot : IO FileTree := do
  let top ← IO.currentDir
  let rec visit (tree : FileTree) (names : List String) : IO FileTree := do
    let directory := names.foldl (fun path name => path / name) top
    let mut tree := tree
    for entry in ← directory.readDir do
      let inner := names ++ [entry.fileName]
      if ← entry.path.isDir then
        tree ← visit (tree.set inner .directory) inner
      else
        try
          let bytes ← IO.FS.readBinFile entry.path
          tree := tree.set inner (.file bytes (isRunnable bytes))
        catch _ => pure ()
    return tree
  visit .empty []

partial def readAll (stream : IO.FS.Stream) (done : ByteArray) : IO ByteArray := do
  let bytes ← stream.read 65536
  if bytes.isEmpty then return done
  readAll stream (done ++ bytes)

end LintGate

open LintGate in
def main (args : List String) : IO UInt32 := do
  let tree ← snapshot
  let input ← if readsInput args then readAll (← IO.getStdin) .empty else pure .empty
  let coloured := (← IO.getEnv "NO_COLOR").isNone
  let outcome := Program.respond (.scripted tree input coloured) args
  IO.print outcome.stdout
  IO.eprint outcome.stderr
  return outcome.exit.toUInt32
