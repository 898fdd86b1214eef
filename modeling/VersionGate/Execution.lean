import VersionGate.Run
import VersionGate.Text.Utf8

namespace VersionGate

structure Finished where
  status : ExitStatus
  stdout : String
  stderr : String
deriving DecidableEq

def outputText (bytes : List UInt8) : String :=
  String.ofList (Text.Utf8.decode bytes)

/-- Runs a command. Only a command that cannot be started is an error; how it ends is part of the
result. -/
def execute (host : Host) (command : CommandLine) : Run Finished := do
  Run.note (.launch command)
  match host command with
  | .error fault => Run.fail (.io fault)
  | .ok child =>
    Run.log (.finished command child.status)
    return ⟨child.status, outputText child.stdout, outputText child.stderr⟩

end VersionGate
