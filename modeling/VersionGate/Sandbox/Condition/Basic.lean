import VersionGate.Sandbox.World

/-!
Conditions on files, texts and numbers, as the utility `test` decides them.

A condition is read from a list of words by going through it from left to right.
-/

namespace VersionGate.Sandbox.Condition

/-- What a condition can look at: what lies at a path, with or without following a link at its end. -/
structure Sight where
  look : Bool → Octets → Option (Path × Node)

namespace Sight

def ofWorld (world : World) (descriptors : Descriptors) (directory : Path) : Sight where
  look follows text :=
    match world.tree.find directory text follows with
    | .ok (path, .descriptor number) =>
      match descriptors.lookup number with
      | none => none
      | some file =>
        match world.files[file]? with
        | some (.device device) => some (path, .device device)
        | some (.folder folder) => some (folder, .directory)
        | some (.document place _ _ _ _) =>
          some (place, (world.tree.node? place).getD (.document [] false))
        | _ => some (path, .descriptor number)
    | .ok found => some found
    | .error _ => none

end Sight

def fileLetters : List Char :=
  ['b', 'c', 'd', 'e', 'f', 'g', 'h', 'k', 'p', 'r', 's', 'u', 'w', 'x', 'G', 'L', 'O', 'S']

def holdsOfFile (sight : Sight) (letter : Char) (text : Octets) : Bool :=
  match sight.look (letter ≠ 'h' && letter ≠ 'L') text with
  | none => false
  | some (_, node) =>
    match letter, node with
    | 'd', .directory => true
    | 'f', .document .. => true
    | 'f', .program _ => true
    | 'c', .device _ => true
    | 'p', .descriptor _ => true
    | 'h', .link _ => true
    | 'L', .link _ => true
    | 's', .document content _ => !content.isEmpty
    | 's', .program _ => true
    | 's', .directory => true
    | 'x', .document _ executable => executable
    | 'x', .program _ => true
    | 'x', .directory => true
    | _, _ => letter ∈ ['e', 'r', 'w', 'O', 'G']

def sameFile (sight : Sight) (left right : Octets) : Bool :=
  match sight.look true left, sight.look true right with
  | some (left, _), some (right, _) => left = right
  | _, _ => false

def relation? : Octets → Option (Int → Int → Bool)
  | ['-', 'e', 'q'] => some (· == ·)
  | ['-', 'n', 'e'] => some (· != ·)
  | ['-', 'l', 't'] => some fun left right => left < right
  | ['-', 'l', 'e'] => some fun left right => left ≤ right
  | ['-', 'g', 't'] => some fun left right => right < left
  | ['-', 'g', 'e'] => some fun left right => right ≤ left
  | _ => none

abbrev Verdict := Except Octets Bool

/-- Going through the words of a condition: a step knows the number of the current word. -/
abbrev Scan := StateT Nat (Except Octets)

namespace Scan

def fail {α : Type} (text : Octets) : Scan α :=
  throw text

def ahead (words : List Octets) (distance : Nat) : Scan (Option Octets) :=
  return words[(← get) + distance]?

def skip (count : Nat) : Scan Unit :=
  modify (· + count)

end Scan

end VersionGate.Sandbox.Condition
