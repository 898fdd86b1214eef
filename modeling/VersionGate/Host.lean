import VersionGate.CommandLine
import VersionGate.Error

/-!
The host on which query commands run.

A host answers a command line with what became of the child process. Everything the gate decides
depends on the outside world through this answer alone.
-/

namespace VersionGate

inductive ExitStatus where
  | exited (code : UInt8)
  | signaled
deriving DecidableEq

namespace ExitStatus

def code? : ExitStatus → Option UInt8
  | exited code => some code
  | signaled => none

def isSuccess (status : ExitStatus) : Bool :=
  status.code? == some 0

def text (status : ExitStatus) : String :=
  match status.code? with
  | some code => toString code.toNat
  | none => "signal"

end ExitStatus

structure Child where
  status : ExitStatus
  stdout : List UInt8
  stderr : List UInt8

/-- What becomes of a command line: a fault if no process could be started. -/
abbrev Host := CommandLine → Except IoFault Child

end VersionGate
