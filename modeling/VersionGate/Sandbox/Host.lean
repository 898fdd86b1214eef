import VersionGate.Host
import VersionGate.Sandbox.Machine

namespace VersionGate.Sandbox

def isPassable (word : String) : Bool :=
  '\x00' ∉ word.toList

def Machine.host (machine : Machine) : Host := fun command =>
  if !command.words.all isPassable then .error (.described "nul byte found in provided data")
  else
    match machine.run command.program command.args with
    | .error fault => .error (.system fault.number)
    | .ok completed => .ok {
        status := match completed.ending with
          | .exited code => .exited code
          | .killed _ => .signaled
        stdout := (completed.on .out).toBytes
        stderr := (completed.on .err).toBytes }

end VersionGate.Sandbox
