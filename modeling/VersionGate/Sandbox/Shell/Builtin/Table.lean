import VersionGate.Sandbox.Shell.Builtin.Control
import VersionGate.Sandbox.Shell.Builtin.Output
import VersionGate.Sandbox.Shell.Builtin.Place
import VersionGate.Sandbox.Shell.Builtin.Variables

namespace VersionGate.Sandbox.Shell.Builtin

def table : List (String × Builtin) :=
  [(".", readIn), (":", succeed), ("[", bracket), ("alias", alias_), ("break", break_), ("cd", cd),
    ("command", command), ("continue", continue_), ("echo", echo), ("eval", eval), ("exec", exec),
    ("exit", exit), ("export", export_), ("false", refuse), ("getopts", getOptions), ("hash", hash),
    ("jobs", listJobs), ("kill", kill), ("local", local_), ("printf", printf), ("pwd", pwd),
    ("read", read), ("readonly", readOnly), ("return", return_), ("set", set_), ("shift", shift),
    ("test", test), ("times", times), ("trap", trap), ("true", succeed), ("type", type),
    ("unset", unset), ("wait", wait)]

def ofName (name : Octets) : Builtin :=
  (table.lookup (String.ofList name)).getD refuse

/-- The builtin commands whose arguments may be assignments, which are not divided. -/
def takesAssignments (name : Octets) : Bool :=
  String.ofList name ∈ ["alias", "export", "local", "readonly"]

end VersionGate.Sandbox.Shell.Builtin
