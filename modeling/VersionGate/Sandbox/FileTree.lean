import VersionGate.Sandbox.Octets

/-!
The files of the sandbox.

A tree is a list of absolute paths with what lies there. Looking up a path walks through it component
by component, so that a component that is missing, too long or no directory is reported before
anything that comes after it.
-/

namespace VersionGate.Sandbox

inductive Fault where
  | noEntry
  | formatError
  | badDescriptor
  | noPermission
  | alreadyExists
  | noDirectory
  | isDirectory
  | invalid
  | full
  | nameTooLong
  | notEmpty
  | linkLoop
deriving DecidableEq

def Fault.number : Fault → Nat
  | noEntry => 2
  | formatError => 8
  | badDescriptor => 9
  | noPermission => 13
  | alreadyExists => 17
  | noDirectory => 20
  | isDirectory => 21
  | invalid => 22
  | full => 28
  | nameTooLong => 36
  | notEmpty => 39
  | linkLoop => 40

inductive Device where
  | null
  /-- Takes everything and gives zero bytes without end. -/
  | zero
  /-- Takes nothing and gives zero bytes without end. -/
  | full
  | terminal
deriving DecidableEq

inductive Node where
  | directory
  | program (name : String)
  | document (content : Octets) (executable : Bool)
  | device (device : Device)
  | descriptor (number : Nat)
  | link (target : Octets)
deriving DecidableEq

abbrev Path := List Octets

def Path.text (path : Path) : Octets :=
  if path.isEmpty then ['/'] else path.flatMap fun part => '/' :: part

def cutPath (text : Octets) : List Octets :=
  text.foldr
    (fun c parts =>
      match parts with
      | part :: later => if c = '/' then [] :: part :: later else (c :: part) :: later
      | [] => [])
    [[]]

structure FileTree where
  entries : List (Path × Node) := []

namespace FileTree

/-- What lies at a path without links. -/
def node? (tree : FileTree) (path : Path) : Option Node :=
  if path.isEmpty then some .directory else tree.entries.lookup path

def remove (tree : FileTree) (path : Path) : FileTree :=
  { entries := tree.entries.filter (·.1 ≠ path) }

def put (tree : FileTree) (path : Path) (node : Node) : FileTree :=
  { entries := (path, node) :: (tree.remove path).entries }

def names (tree : FileTree) (path : Path) : List Octets :=
  tree.entries.filterMap fun (other, _) =>
    if other.length = path.length + 1 && path.isPrefixOf other then other.getLast? else none

def nameLimit : Nat := 255

def pathLimit : Nat := 4096

def linkLimit : Nat := 40

/-- Walks from a directory through some components. The last one may be missing, and if it is a link,
the link is followed on demand. -/
def walk (tree : FileTree) (follows : Bool) :
    Nat → Nat → Path → List Octets → Except Fault (Path × Option Node)
  | 0, _, _, _ => .error .linkLoop
  | _ + 1, _, place, [] => .ok (place, tree.node? place)
  | fuel + 1, links, place, part :: rest =>
    match tree.node? place with
    | none => .error .noEntry
    | some .directory =>
      if part.isEmpty || part = ['.'] then walk tree follows fuel links place rest
      else if part = ['.', '.'] then walk tree follows fuel links place.dropLast rest
      else if nameLimit < part.length then .error .nameTooLong
      else
        let next := place ++ [part]
        match tree.node? next with
        | some (.link target) =>
          if rest.isEmpty && !follows then .ok (next, some (.link target))
          else if linkLimit ≤ links then .error .linkLoop
          else
            let start := if target.head? = some '/' then [] else place
            walk tree follows fuel (links + 1) start (cutPath target ++ rest)
        | none => if rest.isEmpty then .ok (next, none) else .error .noEntry
        | some _ => walk tree follows fuel links next rest
    | some _ => .error .noDirectory

/-- Looks up a path from a directory: where it leads, and what lies there. -/
def locate (tree : FileTree) (directory : Path) (text : Octets) (follows : Bool := true) :
    Except Fault (Path × Option Node) :=
  if text.isEmpty then .error .noEntry
  else if pathLimit ≤ text.length then .error .nameTooLong
  else
    let start := if text.head? = some '/' then [] else directory
    tree.walk follows (text.length * (linkLimit + 1) + pathLimit) 0 start (cutPath text)

def find (tree : FileTree) (directory : Path) (text : Octets) (follows : Bool := true) :
    Except Fault (Path × Node) := do
  match ← tree.locate directory text follows with
  | (path, some node) => return (path, node)
  | (_, none) => throw .noEntry

end FileTree

end VersionGate.Sandbox
