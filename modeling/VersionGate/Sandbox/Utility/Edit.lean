import VersionGate.Sandbox.Edit.Reader
import VersionGate.Sandbox.Edit.Run
import VersionGate.Sandbox.Utility.Arguments

namespace VersionGate.Sandbox.Utility

/-- Where a fault in a script is: in which part, and after how many bytes. -/
def faultPlace (parts : List Octets) (rest : Octets) (isGlobal : Bool) : Octets :=
  let whole := ['\n'].intercalate parts
  let rec go : Nat → Nat → List Octets → Octets
    | _, _, [] => []
    | position, number, part :: parts =>
      if position ≤ part.length + 1 || parts.isEmpty then
        let count := if isGlobal then 0 else min position part.length
        "-e expression #".toList ++ Octets.ofNat number ++ ", char ".toList ++ Octets.ofNat count
      else go (position - (part.length + 1)) (number + 1) parts
  go (whole.length - rest.length) 1 parts

def editGrammar : Arguments.Grammar where
  known := [
    { letter := 'n', long := "quiet" }, { letter := 'n', long := "silent" },
    { letter := 'e', long := "expression", value := .needed },
    { letter := 'E', long := "regexp-extended" }, { letter := 'r' }]
  package := "GNU sed"
  version := "4.9"

def sed : Job UInt8 := do
  let parsed ← Arguments.read editGrammar
  let (parts, files) : List Octets × List Octets ← match parsed.values 'e', parsed.operands with
    | [], [] => Job.exit 1
    | [], text :: files => pure ([text], files)
    | parts, files => pure (parts, files)
  let text := ['\n'].intercalate parts
  let script ← match Edit.readScript (parsed.has 'E' || parsed.has 'r') text with
    | .ok script => pure script
    | .error fault =>
      Job.fail 1 (faultPlace parts fault.rest fault.isGlobal ++ ": ".toList ++ fault.message.toList)
  let load (path : Octets) : Job (Option Octets) := do
    match ← Job.takeFile path with
    | .ok text => return some text
    | .error fault =>
      Job.complain ("can't read ".toList ++ path ++ ": ".toList ++ Job.faultText fault)
      return none
  let texts ← (if files.isEmpty then [['-']] else files).mapM load
  let (output, code?) := Edit.edit (parsed.has 'n') script (texts.filterMap id).flatten
  Job.print output
  match code? with
  | some code => return (if code = 0 && texts.any (·.isNone) then 2 else code).toUInt8
  | none => Job.fail 1 (faultPlace parts text true ++ ": no previous regular expression".toList)

end VersionGate.Sandbox.Utility
