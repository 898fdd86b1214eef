import VersionGate.Sandbox.Shell.Engine
import VersionGate.Sandbox.Utility.Table

namespace VersionGate.Sandbox

/-- A machine: the scripts in a directory that comes first on the search path, by name, and the
environment. -/
structure Machine where
  scripts : List (String × String) := []
  environment : List (String × String) := []

namespace Machine

/-! ### Starting programs -/

def shellDialect? (name : String) : Option Shell.Dialect :=
  if name = "sh" || name = "dash" then some .posix
  else if name = "bash" || name = "rbash" then some .bash
  else none

def startWith (engine : Shell.Engine) (path : Octets) (call : Call) (world : World) :
    Except Fault End × World :=
  match Program.executable world.tree call.directory path with
  | .error fault => (.error fault, world)
  | .ok (.script content) =>
    match Program.interpreter? content with
    | none => (.error .formatError, world)
    | some (interpreter, argument) =>
      engine.start interpreter
        { call with name := interpreter, args := argument ++ path :: call.args } world
  | .ok (.installed name) =>
    match shellDialect? name with
    | some dialect =>
      let (ending, world) := engine.shell dialect call world
      (.ok ending, world)
    | none =>
      match Utility.ofName? name with
      | none => (.error .noEntry, world)
      | some utility =>
        let starter : Starter := fun paths call world =>
          engine.startFirst call paths .noEntry world
        match utility starter call world with
        | (.ended ending, world) => (.ok ending, world)
        | (.becomes path call, world) => starter [path] call world

def engine : Nat → Shell.Engine
  | 0 => {
      run := fun _ _ => throw .exhausted
      start := fun _ _ world => (.ok (.killed 9), world) }
  | depth + 1 => {
      run := fun duty command => (engine depth).runCommand duty command
      start := fun path call world => startWith (engine depth) path call world }

def depth : Nat := 12000

def steps : Nat := 200000

/-! ### Files -/

def directories : List String :=
  ["boot", "dev", "dev/fd", "etc", "home", "media", "mnt", "opt", "proc", "root", "run", "srv", "sys",
    "tmp", "usr", "usr/bin", "usr/games", "usr/include", "usr/lib", "usr/lib64", "usr/libexec",
    "usr/local", "usr/local/bin", "usr/local/etc", "usr/local/games", "usr/local/include",
    "usr/local/lib", "usr/local/man", "usr/local/sbin", "usr/local/share", "usr/local/src",
    "usr/sbin", "usr/share", "usr/src", "var", "var/backups", "var/cache", "var/lib", "var/local",
    "var/log", "var/mail", "var/opt", "var/spool", "var/tmp"]

/-- The path of a text without a slash at its beginning. -/
def pathOf (text : String) : Path :=
  cutPath (Octets.ofText text)

def devices : List (String × Node) :=
  [("dev/null", .device .null), ("dev/zero", .device .zero), ("dev/full", .device .full),
    ("dev/random", .device .zero), ("dev/urandom", .device .zero), ("dev/tty", .device .terminal),
    ("dev/stdin", .descriptor 0), ("dev/stdout", .descriptor 1), ("dev/stderr", .descriptor 2)] ++
  (List.range 64).map fun number => ("dev/fd/" ++ toString number, .descriptor number)

def links : List (String × String) :=
  [("bin", "usr/bin"), ("lib", "usr/lib"), ("lib64", "usr/lib64"), ("sbin", "usr/sbin"),
    ("var/run", "/run"), ("var/lock", "/run/lock"), ("usr/bin/sh", "dash"), ("usr/bin/rbash", "bash")]

def documents : List (String × String) :=
  let users := "root:x:0:0:root:/root:/bin/bash\n"
  let groups := "root:x:0:\n"
  [("etc/passwd", users), ("etc/passwd-", users), ("etc/group", groups), ("etc/group-", groups),
    ("etc/hostname", "localhost\n"), ("etc/hosts", "127.0.0.1\tlocalhost\n"),
    ("etc/shells", "/bin/sh\n/bin/bash\n"), ("etc/debian_version", "13.1\n"), ("etc/profile", "")]

def scriptDirectory : String := "tmp/toolgate"

def tree (machine : Machine) : FileTree :=
  let programs := "dash" :: "bash" :: Utility.table.map (·.1)
  { entries :=
      (machine.scripts.map fun (name, body) =>
        (pathOf (scriptDirectory ++ "/" ++ name),
          Node.document (Octets.ofText ("#!/bin/sh\n" ++ body ++ "\n")) true)) ++
      [(pathOf scriptDirectory, .directory)] ++
      (programs.map fun name => (pathOf ("usr/bin/" ++ name), Node.program name)) ++
      (directories.map fun text => (pathOf text, Node.directory)) ++
      (devices.map fun (text, node) => (pathOf text, node)) ++
      (links.map fun (text, target) => (pathOf text, Node.link (Octets.ofText target))) ++
      (documents.map fun (text, content) =>
        (pathOf text, Node.document (Octets.ofText content) false)) }

/-! ### Running -/

/-- The search path of a machine unless its environment has one: its scripts come first. -/
def searchPath (machine : Machine) : String :=
  (if machine.scripts.isEmpty then "" else "/" ++ scriptDirectory ++ ":") ++ "/usr/bin:/bin"

/-- The environment of a machine with a search path: of several values for a name, the first one
counts. -/
def settings (machine : Machine) : List (Octets × Octets) :=
  (machine.environment ++ [("PATH", machine.searchPath)]).foldr
    (fun (name, value) later =>
      let name := Octets.ofText name
      (name, Octets.ofText value) :: later.filter (·.1 ≠ name))
    []

/-- Runs a command on a machine: what it writes and how it ends. -/
def run (machine : Machine) (program : String) (args : List String) : Except Fault Completed := do
  let tree := machine.tree
  let name := Octets.ofText program
  let path ← Program.find tree [] (machine.settings.lookup "PATH".toList) name
  let call : Call := {
    name
    args := args.map Octets.ofText
    environment := machine.settings
    descriptors := [(0, 0), (1, 1), (2, 2)] }
  let world : World := {
    tree
    files := #[.device .null, .output .out, .output .err]
    steps }
  let (result, world) := startWith (engine depth) path call world
  let ending ← result
  return ⟨world.output, ending⟩

end Machine

end VersionGate.Sandbox
