import VersionGate.Sandbox.Sha256
import VersionGate.Sandbox.Utility.Columns

namespace VersionGate.Sandbox.Utility

namespace Dump

def escapes : List (Char × Char) :=
  [('\x00', '0'), ('\x07', 'a'), ('\x08', 'b'), ('\x0c', 'f'), ('\n', 'n'), ('\r', 'r'), ('\t', 't'),
    ('\x0b', 'v')]

def octal (length value : Nat) : Octets :=
  let digits := Nat.toDigits 8 value
  List.replicate (length - digits.length) '0' ++ digits

def cell (c : Char) : Octets :=
  let text := match escapes.lookup c with
    | some letter => ['\\', letter]
    | none => if CharacterClass.isPrintable c then [c] else octal 3 c.toNat
  List.replicate (4 - text.length) ' ' ++ text

/-- The lines for the bytes from an offset on; a line that comes again is shown by a star. -/
def linesFrom : Nat → Nat → Option Octets → Octets → List Octets
  | 0, _, _, _ => []
  | _ + 1, offset, _, [] => [octal 7 offset]
  | fuel + 1, offset, last?, text =>
    let line := text.take 16
    let later := linesFrom fuel (offset + line.length) (some line) (text.drop 16)
    if last? = some line then
      if later.head? = some ['*'] then later else ['*'] :: later
    else (octal 7 offset ++ line.flatMap cell) :: later

end Dump

def od : Job UInt8 := do
  let parsed ← Arguments.read { known := [{ letter := 'c' }] }
  let texts ← (if parsed.operands.isEmpty then [['-']] else parsed.operands).mapM Job.takeFile
  let text := texts.flatMap fun text => text.toOption.getD []
  Job.print (Lines.toText '\n' (Dump.linesFrom (text.length + 2) 0 none text))
  return if texts.all (·.isOk) then 0 else 1

def sha256sum : Job UInt8 := do
  let parsed ← Arguments.read { known := [] }
  eachText parsed.operands fun path text =>
    Job.printLine (Sha256.digest text ++ ' ' :: ' ' :: path)

end VersionGate.Sandbox.Utility
