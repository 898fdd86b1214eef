import VersionGate.Comparison
import VersionGate.Error

namespace VersionGate

/-- The outcome of a check; the required version has the toolchain name in it. -/
structure Report where
  toolchain : String
  required : String
  installed : String
  comparison : Comparison
  satisfied : Bool
deriving DecidableEq

/-- The verdict of a report as a success or as the error of a toolchain that is too old. -/
def Report.ensureSatisfied (report : Report) : Except GateError Unit :=
  if report.satisfied then .ok () else .error (.versionTooLow report.installed report.required)

end VersionGate
