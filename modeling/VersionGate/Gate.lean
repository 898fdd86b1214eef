import VersionGate.Ordering
import VersionGate.Source

/-!
The version gate.

A gate builds the required version from a toolchain name and a suffix, asks a source for the
installed version, and reports whether that one is new enough. A toolchain that is too old is a
finding and not an error.
-/

namespace VersionGate

def defaultToolchain : String := "go"

structure Gate where
  toolchain : String := defaultToolchain
  comparison : Comparison := default
deriving DecidableEq

namespace Gate

instance : Inhabited Gate := ⟨{}⟩

def withComparison (gate : Gate) (comparison : Comparison) : Gate :=
  { gate with comparison }

def requiredVersion (gate : Gate) (suffix : String) : String :=
  gate.toolchain ++ suffix

def evaluate (gate : Gate) (installed required : String) : Except GateError Report := do
  let ordering ← gate.comparison.order installed required gate.toolchain
  return {
    toolchain := gate.toolchain
    required
    installed
    comparison := gate.comparison
    satisfied := ordering != .lt }

def check (gate : Gate) (suffix : String) (source : Source) : Run Report := do
  let installed ← installedVersion source
  let report ← Run.ofExcept (gate.evaluate installed (gate.requiredVersion suffix))
  Run.log (.evaluated report)
  return report

end Gate

end VersionGate
