import VersionGate.Sandbox.Shell.Expansion
import VersionGate.SystemError

namespace VersionGate.Sandbox.Shell

inductive Prepared where
  | open (descriptor : Nat) (access : Access) (path : Octets)
  | copy (descriptor source : Nat)
  | close (descriptor : Nat)
  | document (descriptor number : Nat)

def Prepared.descriptor : Prepared → Nat
  | .open descriptor .. | .copy descriptor _ | .close descriptor | .document descriptor _ => descriptor

/-- Whether a descriptor is copied onto itself, which does nothing, even if it leads nowhere. -/
def Prepared.isIdle : Prepared → Bool
  | .copy descriptor source => descriptor = source
  | _ => false

namespace Redirect

def nameable : List Nat := List.range 10

/-- Expands the words of a redirection. A descriptor has one digit. -/
def prepare (expander : Expander) : Redirection → Act Prepared
  | .mk descriptor target => do
    match target with
    | .file access path =>
      let replaces := access = .replace
      let path ← expander.text path
      return .open descriptor (if replaces && (← Act.shell).isOn 'C' then .create else access) path
    | .replaced path => return .open descriptor .replace (← expander.text path)
    | .document number => return .document descriptor number
    | .copy source =>
      let text ← expander.text source
      match text with
      | ['-'] => return .close descriptor
      | [c] =>
        if c.isDigit then return .copy descriptor (c.toNat - '0'.toNat) else refuse
      | _ => refuse
where
  /-- Words that should have been refused when they were read are reported in the line up to which
  the script has been read. -/
  refuse : Act Prepared := do
    Act.modifyShell fun shell => { shell with line := shell.readLine }
    Act.fail "Syntax error: Bad fd number".toList

def prepareAll (expander : Expander) (redirections : List Redirection) : Act (List Prepared) :=
  redirections.mapM (prepare expander)

def openComplaint (access : Access) (path : Octets) (fault : Fault) : Octets :=
  let isMissing := fault = .noEntry || fault = .noDirectory
  let action := if access.writes then "cannot create " else "cannot open "
  let reason :=
    if !isMissing then systemErrorText fault.number
    else if access.writes then "Directory nonexistent"
    else "No such file"
  action.toList ++ path ++ ": ".toList ++ reason.toList

def lead (descriptors : Descriptors) (descriptor : Nat) (file : Nat) : Descriptors :=
  (descriptor, file) :: descriptors.filter (·.1 ≠ descriptor)

/-- Opens a path for the shell. Where files must not be replaced, special files still may be opened. -/
def openFile (access : Access) (path : Octets) : Act (Except Fault (Nat × World)) := do
  let shell ← Act.shell
  let world ← Act.world
  let isPlain := match world.tree.find shell.directory path with
    | .ok (_, .document ..) => true
    | .ok (_, .directory) => true
    | _ => false
  let access := if access = .create && !isPlain then .replace else access
  return world.openPath shell.descriptors shell.directory access path

def shut (descriptor : Nat) : Act Unit :=
  Act.modifyShell fun shell =>
    { shell with descriptors := shell.descriptors.filter (·.1 ≠ descriptor) }

/-- Leads one descriptor; tells whether that was possible. What is led aside first is closed by the time
a copy fails, so nobody reads the complaint if it is where complaints go. -/
def apply (expander : Expander) (ledAside : Bool) (prepared : Prepared) : Act Bool := do
  let leadTo (descriptor file : Nat) : Act Bool := do
    Act.modifyShell fun shell =>
      { shell with descriptors := lead shell.descriptors descriptor file }
    return true
  match prepared with
  | .open descriptor access path =>
    match ← openFile access path with
    | .ok (file, world) =>
      Act.setWorld world
      leadTo descriptor file
    | .error fault =>
      Act.complain (openComplaint access path fault)
      return false
  | .copy descriptor source =>
    match (← Act.shell).descriptors.lookup source with
    | some file => leadTo descriptor file
    | none =>
      if ledAside then shut descriptor
      Act.complain (Octets.ofNat source ++ ": Bad file descriptor".toList)
      return false
  | .close descriptor =>
    shut descriptor
    return true
  | .document descriptor number =>
    let text ← expander.document (((← Act.shell).documents.lookup number).getD [])
    let (file, world) := (← Act.world).enter (.pipe text [])
    Act.setWorld world
    leadTo descriptor file

/-- Leads descriptors one after the other, as long as that is possible. The descriptors in the list are
those that are still to be led aside when they are led for the first time, because they come back
afterwards. -/
def applyAll (expander : Expander) (kept : List Nat) : List Prepared → Act Bool
  | [] => return true
  | prepared :: rest => do
    if prepared.isIdle then applyAll expander kept rest
    else if ← apply expander (kept.contains prepared.descriptor) prepared then
      applyAll expander (kept.erase prepared.descriptor) rest
    else return false

end Redirect

end VersionGate.Sandbox.Shell
