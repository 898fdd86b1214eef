import VersionGate.Cli.Invocation
import VersionGate.Report.Json

/-!
The version check: what the user is told, and the verdict.

The expected version is announced first; nothing is said about the verdict unless a report was
reached. With JSON output the report itself takes the place of all lines but the warning.
-/

namespace VersionGate

structure Outcome where
  success : Bool
  exitCode : UInt8
deriving DecidableEq

namespace Outcome

def passed : Outcome := ⟨true, 0⟩

def failed (exitCode : UInt8) : Outcome := ⟨false, exitCode⟩

end Outcome

/-- Whether the verdict of a lexical report would be another one under numeric ordering. -/
def Report.lexicalDisagrees (report : Report) : Bool :=
  match report.comparison with
  | .numeric => false
  | .lexical =>
    match Comparison.numeric.order report.installed report.required report.toolchain with
    | .ok ordering => (ordering != .lt) != report.satisfied
    | .error _ => false

def Report.disagreementText (report : Report) : String :=
  report.installed ++ " vs " ++ report.required ++
    ": plain string ordering disagrees with numeric ordering; consider --compare numeric"

namespace Cli.CheckOptions

def gate (options : CheckOptions) : Gate where
  toolchain := options.toolchain
  comparison := options.compare

def sayUnlessJson (options : CheckOptions) (channel : Ui.Channel) (text : String) : Run Unit :=
  if options.json then pure () else Run.say channel text

def present (options : CheckOptions) (report : Report) : Run Outcome := do
  if report.lexicalDisagrees then
    Run.say .warning report.disagreementText
  if options.json then
    Run.say .data report.json
  match report.ensureSatisfied with
  | .ok () =>
    options.sayUnlessJson .success (report.installed ++ " satisfies " ++ report.required)
    return .passed
  | .error error =>
    options.sayUnlessJson .failure ("real " ++ report.toolchain ++ " version: " ++ report.installed)
    return .failed error.exitCode

def checkSource (options : CheckOptions) (mode : Ui.Mode) (suffix : String) (source : Source) :
    Run Outcome := do
  Run.log (.querying source.describe)
  if mode.showsDetail then
    options.sayUnlessJson .detail ("query: " ++ source.describe)
  let report ← options.gate.check suffix source
  options.present report

/-- Runs a version check: against a given source, or else against the query command. Without
a required version nothing is asked. -/
def check (options : CheckOptions) (host : Host) (mode : Ui.Mode) (given : Option Source) :
    Run Outcome :=
  match options.minVersion with
  | none => do
    let error := GateError.missingArgument
    Run.say .failure error.message
    return .failed error.exitCode
  | some suffix => do
    options.sayUnlessJson .message ("expect_version: " ++ options.gate.requiredVersion suffix)
    let source ← match given with
      | some source => pure source
      | none => Run.ofExcept (Source.ofCommandText host options.queryCommand)
    options.checkSource mode suffix source

end Cli.CheckOptions

end VersionGate
