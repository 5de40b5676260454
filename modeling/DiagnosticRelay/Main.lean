import DiagnosticRelay.CommandLine.Run

/-!
# The program

Reads the files that the command needs, runs the command on their contents, prints what it prints,
and exits with its exit code.
-/

namespace DiagnosticRelay.CommandLine

/-- The contents of a file, if it can be read. -/
def readFile? (path : String) : IO (Option ByteArray) := do
  try
    return some (← IO.FS.readBinFile path)
  catch _ =>
    return none

/-- The contents of the files at the given paths. -/
def readFiles (paths : List String) : IO Files := do
  let contents ← paths.mapM fun path => do return (path, ← readFile? path)
  return fun path => (contents.lookup path).bind id

end DiagnosticRelay.CommandLine

open DiagnosticRelay.CommandLine in
/-- Run the program. -/
def main (arguments : List String) : IO UInt32 := do
  let paths := match Command.parse arguments with
    | .ok command => command.paths
    | .error _ => []
  let outcome := run (← readFiles paths) arguments
  IO.print outcome.printed
  if let some failure := outcome.failure? then
    IO.eprintln failure.message
  return outcome.exitCode.toUInt32
