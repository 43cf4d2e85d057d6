-- SUMMARY: The program: reads what a command line depends on, runs it, and prints the ending.
import SdnZones.Command.Run

/-!
# The program

All that happens here is reading and printing. The program is built without access to a
network, so every call of the API ends as on a host that reaches none.
-/

open SdnZones

/-- A file, if it can be read. -/
def readFile? (path : String) : IO (Option (String × List UInt8)) := do
  try
    let bytes ← IO.FS.readBinFile path
    return some (path, bytes.toList)
  catch _ => return none

/-- A variable of the environment, if it is set. -/
def readVariable? (name : String) : IO (Option (String × String)) := do
  return (← IO.getEnv name).map fun value => (name, value)

/-- Run a command line. -/
def main (args : List String) : IO UInt32 := do
  let home ← IO.getEnv "HOME"
  let files ← (Command.pathsOf args home).filterMapM readFile?
  let environment ← Command.variableNames.filterMapM readVariable?
  let surroundings : Settings.Surroundings := {
    files := .ofList files
    environment := environment
    home := home }
  let (ending, _) := Command.run args surroundings Network.unreachable ()
  IO.print ending.out
  IO.eprint ending.err
  return UInt32.ofNat ending.code
