import VersionGate.Process
import VersionGate.Sandbox.Host

/-!
The program itself: it reads its arguments and variables, runs once, and prints what the run leaves
behind. Query commands run in the sandbox; no other program is started.
-/

namespace VersionGate

def readVariables (names : List String) : IO (List (String × String)) :=
  names.filterMapM fun name => do
    return (← IO.getEnv name).map fun value => (name, value)

end VersionGate

open VersionGate in
def main (args : List String) : IO UInt32 := do
  let settings ← readVariables consultedVariables
  let machine : Sandbox.Machine := { environment := settings }
  let clock : Log.Clock := { stamp := toString (← IO.monoMsNow), elapsed := "0" }
  let environment : Cli.Environment := fun name => settings.lookup name
  let exit := runProcess machine.host environment clock (Cli.programName :: args)
  (← IO.getStdout).putStr exit.streams.stdout
  (← IO.getStderr).putStr exit.streams.stderr
  return exit.code.toUInt32
