import VersionGate.Comparison
import VersionGate.Components
import VersionGate.Error
import VersionGate.Text.Utf8

namespace VersionGate

/-- Orders texts by their UTF-8 bytes; a text comes before its continuations. -/
def compareBytes (installed required : String) : Ordering :=
  compare (Text.Utf8.encode installed.toList) (Text.Utf8.encode required.toList)

def requireComponents (version toolchain : String) : Except GateError (List Nat) :=
  match components? version toolchain with
  | some parts => .ok parts
  | none => .error (.unrecognizedVersion version)

/-- Orders the installed version against the required one. The toolchain name is dropped before
components are read; of two versions without components the installed one is reported. -/
def Comparison.order (comparison : Comparison) (installed required toolchain : String) :
    Except GateError Ordering :=
  match comparison with
  | .lexical => .ok (compareBytes installed required)
  | .numeric => do
    let installedParts ← requireComponents installed toolchain
    let requiredParts ← requireComponents required toolchain
    return compareComponents installedParts requiredParts

end VersionGate
