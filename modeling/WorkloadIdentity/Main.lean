import WorkloadIdentity.CommandLine.Printout

/-! The program has no connection to a cluster of its own, so a start-up ends where it would
connect. -/

namespace WorkloadIdentity

/-- The variables of the environment. -/
def readEnvironment : IO (List (String × String)) := do
  let text ← try IO.FS.readFile "/proc/self/environ" catch _ => pure ""
  return ((text.splitOn "\x00").filter (· ≠ "")).map fun entry =>
    let name := (entry.toList.takeWhile (· ≠ '=')).length
    (String.ofList (entry.toList.take name), String.ofList (entry.toList.drop (name + 1)))

def readSettingsFile (path : String) : IO Settings.File := do
  let content ← try some <$> IO.FS.readFile path catch _ => pure none
  return { path, content }

end WorkloadIdentity

open WorkloadIdentity in
def main (args : List String) : IO UInt32 := do
  let env ← readEnvironment
  let command := Command.ofArguments args env
  let file ← command.file?.mapM readSettingsFile
  let printout := command.printout env file
  printout.output.forM IO.println
  printout.errors.forM IO.eprintln
  return UInt32.ofNat printout.code
