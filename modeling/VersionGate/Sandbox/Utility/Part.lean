import VersionGate.Sandbox.Number
import VersionGate.Sandbox.Utility.Arguments

namespace VersionGate.Sandbox.Utility

inductive Measure where
  | lines
  | bytes
deriving DecidableEq

structure Part where
  unit : Measure := .lines
  count : Nat := 10
  omits : Bool := false

namespace Part

def front (part : Part) (text : Octets) : Octets :=
  match part.unit with
  | .bytes => text.take (if part.omits then text.length - part.count else part.count)
  | .lines =>
    let lines := Lines.withMarks '\n' text
    (lines.take (if part.omits then lines.length - part.count else part.count)).flatten

def back (part : Part) (text : Octets) : Octets :=
  let start (length : Nat) : Nat := if part.omits then part.count - 1 else length - part.count
  match part.unit with
  | .bytes => text.drop (start text.length)
  | .lines =>
    let lines := Lines.withMarks '\n' text
    (lines.drop (start lines.length)).flatten

/-- Reads the part that options tell. A sign says that the number is left out, or else the other sign
may stand in front of it. -/
def read (omitting : Char) (options : List (Char × Octets)) (part : Part) : Job Part :=
  let step (part : Part) (option : Char × Octets) : Job Part := do
    let (letter, text) := option
    if letter ≠ 'n' && letter ≠ 'c' then return part
    let sign? := text.head?.filter fun c => c = '+' || c = '-'
    let amount := if sign?.isSome then text.tail else text
    if amount.isEmpty || !amount.all Char.isDigit then
      let what := if letter = 'n' then "lines: " else "bytes: "
      Job.fail 1 ("invalid number of ".toList ++ what.toList ++ Quotation.quoted amount)
    return {
      unit := if letter = 'n' then .lines else .bytes, count := Number.natural amount
      omits := sign? = some omitting }
  options.foldlM step part

end Part

def askLimit : Nat := 4000000

/-- Copies the front of a file. What comes after it is left in the file, unless lines are read from a
pipe. -/
def copyFront (part : Part) (file : Nat) : Job (Option Fault) := do
  let asked := if part.unit = .bytes then min part.count askLimit else 0
  match ← Job.peek file asked with
  | .error fault => return some fault
  | .ok text =>
    let front := part.front text
    Job.print front
    let leaves : Bool := match ← Job.openFile? file with
      | some (.document ..) => true
      | _ => part.unit = .bytes
    Job.skip file (if leaves then front.length else text.length)
    return none

def copyBack (part : Part) (file : Nat) : Job (Option Fault) := do
  match ← Job.takeAll file with
  | .error fault => return some fault
  | .ok text =>
    Job.print (part.back text)
    return none

/-- Copies a part of each file, ten lines unless another one is asked for. The first word may be a dash
and a number of lines. -/
def copyParts (omitting : Char) (copy : Part → Nat → Job (Option Fault)) : Job UInt8 := do
  let args := (← Job.call).args
  let (old, args) : Part × List Octets := match args with
    | ('-' :: digit :: digits) :: rest =>
      if (digit :: digits).all Char.isDigit then
        ({ count := Number.natural (digit :: digits) }, rest)
      else ({}, args)
    | _ => ({}, args)
  let parsed ← Arguments.readWords { known := [
    { letter := 'c', long := "bytes", value := .needed },
    { letter := 'n', long := "lines", value := .needed },
    { letter := 'q', long := "quiet" }] } args
  let part ← Part.read omitting parsed.options old
  let step (code : UInt8) (path : Octets) : Job UInt8 := do
    let name := Quotation.commandText (if path = ['-'] then "standard input".toList else path)
    match ← Job.openInput path with
    | .error fault =>
      Job.complain ("cannot open ".toList ++ name ++ " for reading: ".toList ++ Job.faultText fault)
      return 1
    | .ok file =>
      match ← copy part file with
      | none => return code
      | some fault =>
        Job.complain ("error reading ".toList ++ name ++ ": ".toList ++ Job.faultText fault)
        return 1
  (if parsed.operands.isEmpty then [['-']] else parsed.operands).foldlM step 0

def head : Job UInt8 := copyParts '-' copyFront

def tail : Job UInt8 := copyParts '+' copyBack

end VersionGate.Sandbox.Utility
