import VersionGate.Sandbox.Shell.Field
import VersionGate.Sandbox.Shell.Session

namespace VersionGate.Sandbox.Shell

inductive Held where
  | nothing
  | text (octets : Octets)
  | several (apart : Bool) (all : List Octets)

namespace State

def held (shell : State) (name : Octets) : Held :=
  match name with
  | ['@'] => .several true shell.arguments
  | ['*'] => .several false shell.arguments
  | ['#'] => .text (Octets.ofNat shell.arguments.length)
  | ['?'] => .text (Octets.ofNat shell.status)
  | ['$'] => .text (Octets.ofNat shell.number)
  | ['-'] => .text (Options.letters shell.options)
  | ['0'] => .text shell.name
  | ['!'] =>
    match shell.jobs with
    | job :: _ => .text (Octets.ofNat job.number)
    | [] => .nothing
  | _ =>
    let found :=
      if name.all Char.isDigit then shell.arguments[Number.natural name - 1]?
      else shell.value? name
    match found with
    | some octets => .text octets
    | none => .nothing

def joined (shell : State) (all : List Octets) : Octets :=
  (shell.separators.take 1).intercalate all

end State

structure Manner where
  quoted : Bool := false
  divides : Bool := false
  divisible : Bool := false

namespace Manner

def spell (manner : Manner) (quoted : Bool) (octets : Octets) : List Glyph :=
  if quoted then octets.map (.octet · true false)
  else if manner.divides then .border :: octets.map (.octet · false true)
  else octets.map (.octet · false false)

/-- The glyphs of several texts. Between quotes they are separate fields if they are kept apart; else
they are joined by the first separator, or are separate where there is none. -/
def spellSeveral (manner : Manner) (quoted apart : Bool) (shell : State) (all : List Octets) :
    List Glyph :=
  if manner.divides && (if quoted then apart else shell.separators.isEmpty) then
    [Glyph.cut].intercalate (all.map (manner.spell quoted))
  else manner.spell quoted (shell.joined all)

end Manner

end VersionGate.Sandbox.Shell
