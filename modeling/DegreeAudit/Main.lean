import DegreeAudit.Command.Run

/-!
# The program

Reads arguments and environment, runs the command, writes the files that it leaves and tells what
went wrong. No transport is linked in, so every address is out of reach.
-/

open DegreeAudit

/-- The variables that stand for options, with the values that they have. -/
def readEnvironment : IO (List (String × String)) :=
  (Command.Opt.all.filterMap Command.Opt.fallback?).filterMapM fun name => do
    return (← IO.getEnv name).map fun value => (name, value)

def main (arguments : List String) : IO UInt32 := do
  let environment ← readEnvironment
  let outcome := Command.run arguments (List.lookup · environment) .offline [] .empty
  IO.print outcome.stdout
  for line in outcome.errorLine do
    IO.eprintln line
  for (place, entry) in outcome.folder.entries do
    if let .file text := entry then
      IO.FS.writeFile ("/".intercalate place) text
  return outcome.exit.toUInt32
