import VersionGate.Sandbox.Utility.Date
import VersionGate.Sandbox.Utility.Dump
import VersionGate.Sandbox.Utility.Edit
import VersionGate.Sandbox.Utility.Evaluate
import VersionGate.Sandbox.Utility.Exchange
import VersionGate.Sandbox.Utility.Files
import VersionGate.Sandbox.Utility.Find
import VersionGate.Sandbox.Utility.Launch
import VersionGate.Sandbox.Utility.Order
import VersionGate.Sandbox.Utility.Output
import VersionGate.Sandbox.Utility.Part
import VersionGate.Sandbox.Utility.Records
import VersionGate.Sandbox.Utility.Search

namespace VersionGate.Sandbox.Utility

def table : List (String × Job UInt8) :=
  [("awk", awk), ("basename", basename), ("cat", cat), ("cp", cp), ("cut", cut), ("date", date),
    ("dirname", dirname), ("echo", echo), ("env", env), ("expr", expr), ("factor", factor),
    ("false", constant 1), ("find", find), ("grep", grep), ("head", head), ("ln", ln), ("ls", ls),
    ("mkdir", mkdir), ("mktemp", mktemp), ("mv", mv), ("od", od), ("printf", printf),
    ("readlink", readlink), ("rm", rm), ("sed", sed), ("seq", seq),
    ("sha256sum", sha256sum), ("sleep", sleep), ("sort", sort), ("tail", tail),
    ("tee", tee), ("timeout", timeout), ("touch", touch), ("tr", tr), ("true", constant 0),
    ("uniq", uniq), ("wc", wc)]

def ofName? (name : String) : Option Utility :=
  (table.lookup name).map Job.toUtility

end VersionGate.Sandbox.Utility
