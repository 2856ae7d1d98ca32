/-
**The program.**

Reads the files that the arguments name, runs the command on them and prints what it says.
-/

import ShaderCheck.Cli
import ShaderCheck.FileTree

namespace ShaderCheck

/-- The tree of the files that paths name; a path to anything else is left out. -/
def readFiles (paths : List String) : IO FileTree :=
  paths.foldlM (fun tree (path : String) => do
    try
      let bytes ← IO.FS.readBinFile path
      return tree.write (.ofText path) bytes
    catch _ => return tree) (FileTree.empty [])

end ShaderCheck

/-- Runs the command and ends with its code. -/
def main (arguments : List String) : IO UInt32 := do
  let tree ← ShaderCheck.readFiles arguments
  match ShaderCheck.Command.run tree arguments with
  | .error error => return (ShaderCheck.Command.refusalCode error).toUInt32
  | .ok outcome =>
    IO.print outcome.output
    IO.eprint outcome.errors
    return outcome.code.toUInt32
