import VersionGate.Text.Blank
import VersionGate.Text.Line
import VersionGate.Text.Quoted

namespace VersionGate

inductive VersionLineError where
  | noOutput
  | unexpectedLine (line : String)
deriving DecidableEq

def VersionLineError.message : VersionLineError → String
  | noOutput => "command produced no output"
  | unexpectedLine line => "unexpected version line: " ++ Text.quote line

/-- The third word of the first line of an output, as in "go version go1.21.5 linux/amd64". -/
def reportedVersion (output : String) : Except VersionLineError String :=
  match Text.firstLine? output.toList with
  | none => .error .noOutput
  | some line =>
    match (Text.words line)[2]? with
    | some version => .ok (String.ofList version)
    | none => .error (.unexpectedLine (String.ofList line))

end VersionGate
