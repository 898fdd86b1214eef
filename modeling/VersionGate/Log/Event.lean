import VersionGate.Host
import VersionGate.Report

namespace VersionGate.Log

inductive Level where
  | error
  | warn
  | info
  | debug
  | trace
deriving DecidableEq

namespace Level

def name : Level → String
  | error => "ERROR"
  | warn => "WARN"
  | info => "INFO"
  | debug => "DEBUG"
  | trace => "TRACE"

def rank : Level → Nat
  | error => 1
  | warn => 2
  | info => 3
  | debug => 4
  | trace => 5

end Level

inductive Event where
  | starting (arguments : String)
  | querying (source : String)
  | finished (command : CommandLine) (status : ExitStatus)
  | unsuccessful (command : CommandLine) (status : ExitStatus)
  | output (source text : String)
  | evaluated (report : Report)
deriving DecidableEq

namespace Event

def level : Event → Level
  | starting _ => .debug
  | querying _ => .debug
  | finished .. => .debug
  | unsuccessful .. => .warn
  | output .. => .debug
  | evaluated _ => .info

def topic : Event → String
  | starting _ => "toolgate"
  | querying _ => "toolgate::cli::commands::check"
  | finished .. => "toolgate::shell::command"
  | unsuccessful .. => "toolgate::toolchain::query"
  | output .. => "toolgate::toolchain::query"
  | evaluated _ => "toolgate::gate"

def message : Event → String
  | starting arguments => "toolgate starting with args: " ++ arguments
  | querying _ => "querying toolchain"
  | finished .. => "command finished"
  | unsuccessful .. => "toolchain query exited unsuccessfully; using its version output"
  | output .. => "toolchain output"
  | evaluated _ => "version gate evaluated"

def statusText (status : ExitStatus) : String :=
  match status.code? with
  | some code => "Some(" ++ toString code.toNat ++ ")"
  | none => "None"

/-- The fields of an event. The time a child took, in milliseconds, is known to the clock only. -/
def fields (elapsed : String) : Event → List (String × String)
  | starting _ => []
  | querying source => [("source", source)]
  | finished command status =>
    [("command", command.display), ("code", statusText status), ("elapsed_ms", elapsed)]
  | unsuccessful command status => [("command", command.display), ("code", status.text)]
  | output source text => [("source", source), ("output", text)]
  | evaluated report =>
    [("toolchain", report.toolchain), ("installed", report.installed),
      ("required", report.required), ("comparison", report.comparison.name),
      ("satisfied", if report.satisfied then "true" else "false")]

end Event

end VersionGate.Log
