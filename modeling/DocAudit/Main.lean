import DocAudit.CommandLine

/-!
# The program

Reads the files that the arguments name, does what the arguments ask for, and prints the outcome.
-/

namespace DocAudit

/-- Reads a file, or a directory with all that is in it. -/
partial def readTree (path : String) : IO (Option FileTree) := do
  let real ← IO.FS.realPath path
  if ← real.isDir then
    let entries ← (← real.readDir).toList.filterMapM fun entry => do
      return (← readTree entry.path.toString).map (entry.fileName, ·)
    return some (.directory entries)
  else if ← real.pathExists then
    return some (.file (← IO.FS.readBinFile real))
  else return none

/-- Reads what a path leads to; nothing, if it cannot be read. -/
def readPath (path : String) : IO (String × Option FileTree) := do
  try return (path, ← readTree path)
  catch _ => return (path, none)

/-- The paths that have to be read. -/
def Wanted.paths : Wanted → List String
  | .run ⟨_, _, .stockSettings⟩ => []
  | .run invocation => invocation.sourcePath :: invocation.config.toList
  | _ => []

end DocAudit

open DocAudit

/-- Runs the program. -/
def main (arguments : List String) : IO UInt32 := do
  let wanted := Wanted.ofArguments arguments
  let found ← wanted.paths.mapM readPath
  let outcome := wanted.outcome fun path => (found.lookup path).join
  (← IO.getStdout).putStr outcome.output
  return outcome.exitCode.toUInt32
