import Offside.Command

/-! The program: reads its arguments and the file they name, and prints what the command makes of
them. -/

namespace Offside.Command

/-- The text of a file, if it can be read. -/
def readText (file : String) : IO (Option String) := do
  try return some (← IO.FS.readFile file)
  catch _ => return none

end Offside.Command

open Offside in
def main (arguments : List String) : IO UInt32 := do
  let lookback ← IO.getEnv "DEFSCRIPT_LOOKBACK"
  let text ← match Command.Arguments.read arguments lookback with
    | .ok arguments => Command.readText arguments.file
    | .error _ => pure none
  let outcome := Command.run arguments lookback fun _ => text
  (← IO.getStdout).putStr outcome.output
  (← IO.getStderr).putStr outcome.complaint
  return UInt32.ofNat outcome.exit
