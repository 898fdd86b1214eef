import VersionGate.Check
import VersionGate.Cli.Completions

namespace VersionGate.Cli.Invocation

/-- Does what an invocation asks for. A completion script takes precedence over a check. -/
def dispatch (invocation : Invocation) (host : Host) (mode : Ui.Mode) : Run Outcome :=
  match invocation.completions with
  | some shell => do
    Run.say .data shell.completionScript
    return .passed
  | none => invocation.check.check host mode none

/-- Runs an invocation to its exit code; an error is reported and gives the code. -/
def run (invocation : Invocation) (host : Host) (mode : Ui.Mode) : List Event × UInt8 :=
  let run := invocation.dispatch host mode
  match run.result with
  | .ok outcome => (run.events, outcome.exitCode)
  | .error error => (run.events ++ [.say ⟨.error, error.message⟩], error.exitCode)

end VersionGate.Cli.Invocation
