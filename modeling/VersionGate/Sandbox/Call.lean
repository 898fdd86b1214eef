import VersionGate.Sandbox.World

namespace VersionGate.Sandbox

structure Call where
  name : Octets
  args : List Octets := []
  environment : List (Octets × Octets) := []
  descriptors : Descriptors := []
  directory : Path := []
  ignored : List Nat := []

inductive Conclusion where
  | ended (ending : End)
  | becomes (path : Octets) (call : Call)

/-- A way to start the first program that can be started of some paths, and to wait for its end. -/
abbrev Starter := List Octets → Call → World → Except Fault End × World

/-- A utility changes the world and comes to a conclusion; on the way it may start programs. -/
abbrev Utility := Starter → Call → World → Conclusion × World

namespace Program

inductive Executable where
  | installed (name : String)
  | script (content : Octets)

def executable (tree : FileTree) (directory : Path) (path : Octets) : Except Fault Executable := do
  match ← tree.find directory path with
  | (_, .program name) => return .installed name
  | (_, .document content true) => return .script content
  | _ => throw .noPermission

/-- The directories in which programs are looked for unless others are chosen. -/
def defaultSearchPath : Octets :=
  "/bin:/usr/bin".toList

/-- Looks for a program in some directories. A program that may not be started is passed over, but it
is reported if there is no other. -/
def search (tree : FileTree) (directory : Path) (name : Octets) :
    List Octets → Fault → Except Fault Octets
  | [], fault => .error fault
  | place :: places, fault =>
    let path := if place.isEmpty then name else place ++ '/' :: name
    match executable tree directory path with
    | .ok _ => .ok path
    | .error .noPermission => search tree directory name places .noPermission
    | .error .noEntry => search tree directory name places fault
    | .error .noDirectory => search tree directory name places fault
    | .error other => .error other

/-- The path of a program: the name itself if it has a slash, else a path on the search path. -/
def find (tree : FileTree) (directory : Path) (searchPath : Option Octets) (name : Octets) :
    Except Fault Octets :=
  if name.isEmpty then .error .noEntry
  else if '/' ∈ name then .ok name
  else if FileTree.nameLimit < name.length then .error .nameTooLong
  else
    search tree directory name ((searchPath.getD defaultSearchPath).splitOn ':') .noEntry

def interpreter? (content : Octets) : Option (Octets × List Octets) :=
  match content with
  | '#' :: '!' :: rest =>
    let isBlank (c : Char) : Bool := c = ' ' || c = '\t'
    let line := (rest.takeWhile (· ≠ '\n')).dropWhile isBlank
    let path := line.takeWhile fun c => !isBlank c
    let after := (line.drop path.length).dropWhile isBlank
    let argument := (after.reverse.dropWhile isBlank).reverse
    if path.isEmpty then none
    else some (path, if argument.isEmpty then [] else [argument])
  | _ => none

end Program

end VersionGate.Sandbox
