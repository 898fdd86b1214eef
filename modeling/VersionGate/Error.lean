import VersionGate.SystemError

/-!
What can go wrong, the text that says so, and the exit code that reports it.

`GateError.exitCode` is the only place where a kind of error becomes an exit code.
-/

namespace VersionGate

inductive IoFault where
  | system (code : Int)
  | described (text : String)
deriving DecidableEq

def IoFault.text : IoFault → String
  | system code => systemErrorText code ++ " (os error " ++ toString code ++ ")"
  | described text => text

inductive GateError where
  | missingArgument
  | versionTooLow (installed required : String)
  | queryFailed (command message : String)
  | unrecognizedVersion (version : String)
  | io (fault : IoFault)
  /-- Any other error: its first cause, and what was going on around it, innermost first. -/
  | other (root : String) (contexts : List String)
deriving DecidableEq

namespace GateError

def message : GateError → String
  | missingArgument =>
    "not include version info: pass the minimum version, e.g. `toolgate 1.20`"
  | versionTooLow installed required =>
    "installed version " ++ installed ++ " is older than required " ++ required
  | queryFailed command message => "Toolchain query `" ++ command ++ "` failed: " ++ message
  | unrecognizedVersion version => "Unrecognized version string: " ++ version
  | io fault => "IO error: " ++ fault.text
  | other root contexts => contexts.getLast?.getD root

def exitCode : GateError → UInt8
  | versionTooLow .. => 1
  | missingArgument => 2
  | queryFailed .. => 3
  | unrecognizedVersion .. => 3
  | io .. => 1
  | other .. => 1

end GateError

end VersionGate
