import VersionGate.Execution
import VersionGate.VersionLine

namespace VersionGate

structure Source where
  describe : String
  query : Run String

/-- What is said about a command that failed: how it ended, and what it wrote to standard error if
that is not blank. -/
def failureText (finished : Finished) : String :=
  let complaint := String.ofList (Text.trim finished.stderr.toList)
  "exited with code " ++ finished.status.text ++
    (if complaint.isEmpty then "" else ": " ++ complaint)

/-- Asks a command for its output. A command that fails is believed if its output reports a version
all the same. -/
def queryCommand (host : Host) (command : CommandLine) : Run String := do
  let failed message := GateError.queryFailed command.display message
  let finished ← (execute host command).mapError fun error => failed error.message
  if finished.status.isSuccess then
    return finished.stdout
  else
    match reportedVersion finished.stdout with
    | .ok _ =>
      Run.log (.unsuccessful command finished.status)
      return finished.stdout
    | .error _ => Run.fail (failed (failureText finished))

namespace Source

def fixed (output : String) : Source where
  describe := "static output"
  query := pure output

def ofCommand (host : Host) (command : CommandLine) : Source where
  describe := command.display
  query := queryCommand host command

/-- A source that runs the command a text spells out; a blank text is refused. -/
def ofCommandText (host : Host) (text : String) : Except GateError Source :=
  match CommandLine.parse? text with
  | some command => .ok (ofCommand host command)
  | none => .error (.queryFailed text "query command is empty")

end Source

def installedVersion (source : Source) : Run String := do
  Run.note (.query source.describe)
  let output ← source.query
  Run.log (.output source.describe (String.ofList (Text.trimEnd output.toList)))
  match reportedVersion output with
  | .ok version => return version
  | .error reason => Run.fail (.queryFailed source.describe reason.message)

end VersionGate
