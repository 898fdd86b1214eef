import VersionGate.Sandbox.Call
import VersionGate.Sandbox.Shell.Reader.Token
import VersionGate.Sandbox.Shell.Session

namespace VersionGate.Sandbox.Shell.Lookup

/-- The builtin commands that change the shell itself. An error in one of them ends a script. -/
def specialNames : List String :=
  [".", ":", "break", "continue", "eval", "exec", "exit", "export", "local", "readonly", "return",
    "set", "shift", "times", "trap", "unset"]

def plainNames : List String :=
  ["[", "alias", "cd", "command", "echo", "false", "getopts", "hash", "jobs", "kill", "printf", "pwd",
    "read", "test", "true", "type", "wait"]

/-- Whether a name is that of a special builtin command, if it is that of a builtin command. -/
def builtin? (name : Octets) : Option Bool :=
  let name := String.ofList name
  if name ∈ specialNames then some true
  else if name ∈ plainNames then some false
  else none

def candidates (searchPath name : Octets) : List Octets :=
  (searchPath.splitOn ':').map fun directory =>
    if directory.isEmpty then name else directory ++ '/' :: name

def search (tree : FileTree) (directory : Path) (searchPath name : Octets) : Except Fault Octets :=
  let rec go (fault : Fault) : List Octets → Except Fault Octets
    | [] => .error fault
    | path :: rest =>
      match Program.executable tree directory path with
      | .ok _ => .ok path
      | .error .noEntry => go fault rest
      | .error .noDirectory => go fault rest
      | .error other => go other rest
  go .noEntry (candidates searchPath name)

def remember (name path : Octets) : Act Unit :=
  Act.modifyShell fun shell =>
    { shell with found := (name, path) :: shell.found.filter (·.1 ≠ name) }

inductive Meaning where
  | keyword
  | alias (value : Octets)
  | function
  | builtin (isSpecial : Bool)
  | program (path : Octets)
  | nothing

def meaning (name : Octets) : Act Meaning := do
  let shell ← Act.shell
  let tree := (← Act.world).tree
  if (Keyword.ofText? name).isSome then return .keyword
  match shell.aliases.lookup name, shell.functions.lookup name, builtin? name with
  | some value, _, _ => return .alias value
  | none, some _, _ => return .function
  | none, none, some isSpecial => return .builtin isSpecial
  | none, none, none =>
    if '/' ∈ name then
      match tree.find shell.directory name with
      | .ok _ => return .program name
      | .error _ => return .nothing
    else
      match search tree shell.directory shell.searchPath name with
      | .ok path => return .program path
      | .error _ => return .nothing

end VersionGate.Sandbox.Shell.Lookup
