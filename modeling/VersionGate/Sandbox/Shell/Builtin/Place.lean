import VersionGate.Sandbox.Shell.Builtin.Basic
import VersionGate.Sandbox.Shell.Lookup

namespace VersionGate.Sandbox.Shell.Builtin

/-! ### Directories -/

/-- A way with a text walked on from it: dots lead up, whatever the links are. -/
def walkOn (way : Path) (text : Octets) : Path :=
  let start := if text.head? = some '/' then [] else way
  (cutPath text).foldl
    (fun way part =>
      if part.isEmpty || part = ['.'] then way
      else if part = ['.', '.'] then way.dropLast
      else way ++ [part])
    start

/-- Goes to a directory; tells whether that was possible. -/
def enter (physical : Bool) (text : Octets) : Act Bool := do
  let shell ← Act.shell
  let tree := (← Act.world).tree
  let way := walkOn shell.way text
  let found :=
    if physical then tree.find shell.directory text
    else tree.find [] (Path.text way)
  match found with
  | .ok (directory, .directory) =>
    let way := if physical then directory else way
    Act.assign "OLDPWD".toList (Path.text shell.way) true
    Act.assign "PWD".toList (Path.text way) true
    Act.modifyShell fun shell => { shell with directory, way }
    return true
  | _ => return false

def cd : Builtin := fun _ args => do
  let (asked, rest) ← options "LP" args
  let physical := (asked.getLast?.map (·.1)) = some 'P'
  let shell ← Act.shell
  let (text?, tells) := match rest with
    | [] => (shell.value? "HOME".toList, false)
    | ['-'] :: _ => (shell.value? "OLDPWD".toList, true)
    | text :: _ => (some text, false)
  let text := text?.getD []
  if !text.isEmpty && !(← enter physical text) then Act.fail ("can't cd to ".toList ++ text)
  if tells then Act.printLine (Path.text (← Act.shell).way)
  return 0

def pwd : Builtin := fun _ args => do
  let (asked, _) ← options "LP" args
  let shell ← Act.shell
  let physical := (asked.getLast?.map (·.1)) = some 'P'
  Act.printLine (Path.text (if physical then shell.directory else shell.way))
  return 0

/-! ### Names of commands -/

def describe (verbose : Bool) (name : Octets) : Act Nat := do
  let shell ← Act.shell
  let say (short : Octets) (long : String) : Act Nat := do
    Act.printLine (if verbose then name ++ long.toList else short)
    return 0
  match ← Lookup.meaning name with
  | .keyword => say name " is a shell keyword"
  | .alias value =>
    if verbose then Act.printLine (name ++ " is an alias for ".toList ++ value)
    else Act.printLine ("alias ".toList ++ name ++ '=' :: quoted value)
    return 0
  | .function => say name " is a shell function"
  | .builtin true => say name " is a special shell builtin"
  | .builtin false => say name " is a shell builtin"
  | .program path =>
    let tracked := (shell.found.lookup name).isSome
    let words := if tracked then " is a tracked alias for " else " is "
    Act.printLine (if verbose then name ++ words.toList ++ path else path)
    if '/' ∉ name then Lookup.remember name path
    return 0
  | .nothing =>
    if verbose then Act.printLine (name ++ ": not found".toList)
    return 127

/-- Tells what names stand for; it has no options. -/
def type : Builtin := fun _ args => do
  let statuses ← args.mapM (describe true)
  return (statuses.filter (· ≠ 0)).getLast?.getD 0

def command : Builtin := fun _ args => do
  let (asked, names) ← options "pvV" args
  match names with
  | name :: _ => describe (asked.any (·.1 = 'V')) name
  | [] => return 0

def hash : Builtin := fun _ args => do
  let (asked, names) ← options "r" args
  if !asked.isEmpty then Act.modifyShell fun shell => { shell with found := [] }
  if names.isEmpty then
    (← Act.shell).found.reverse.forM fun (_, path) => Act.printLine path
    return 0
  let statuses ← names.mapM fun name => do
    match ← Lookup.meaning name with
    | .nothing =>
      Act.complain (name ++ ": not found".toList)
      return 1
    | .program path =>
      Lookup.remember name path
      return 0
    | _ => return 0
  return if statuses.all (· = 0) then 0 else 1

/-! ### Aliases -/

def showAlias (name value : Octets) : Act Unit :=
  Act.printLine (name ++ '=' :: quoted value)

def alias_ : Builtin := fun _ args => do
  let aliases := (← Act.shell).aliases
  if args.isEmpty then
    aliases.reverse.forM fun (name, value) => showAlias name value
    return 0
  let statuses ← args.mapM fun arg => do
    match cutAssignment arg with
    | (name, some value) =>
      if name.isEmpty then notFound arg
      else
        Act.modifyShell fun shell =>
          { shell with aliases := (name, value) :: shell.aliases.filter (·.1 ≠ name) }
        return 0
    | (name, none) =>
      match (← Act.shell).aliases.lookup name with
      | some value =>
        showAlias name value
        return 0
      | none => notFound name
  return if statuses.all (· = 0) then 0 else 1
where
  notFound (name : Octets) : Act Nat := do
    Act.sayError ("alias: ".toList ++ name ++ " not found".toList)
    return 1

/-! ### Times -/

def times : Builtin := fun _ _ => do
  let line := "0m0.000000s 0m0.000000s".toList
  Act.printLine line
  Act.printLine line
  return 0

end VersionGate.Sandbox.Shell.Builtin
