import VersionGate.Text.LowerCase

namespace VersionGate

/-- How versions are ordered: as whole strings, byte by byte, or by the dotted numbers after the
toolchain name. -/
inductive Comparison where
  | lexical
  | numeric
deriving DecidableEq

namespace Comparison

instance : Inhabited Comparison := ⟨lexical⟩

def all : List Comparison :=
  [lexical, numeric]

def name : Comparison → String
  | lexical => "lexical"
  | numeric => "numeric"

def ofName? (text : String) : Option Comparison :=
  all.find? (·.name == text)

def ofNameAnyCase? (text : String) : Option Comparison :=
  all.find? fun comparison =>
    Text.lowerAscii comparison.name.toList == Text.lowerAscii text.toList

/-- Reads a name whose lower case, over all scripts, is the name of a comparison. A text that names
none is refused with a message that repeats it. -/
def read (text : String) : Except String Comparison :=
  match ofName? (String.ofList (Text.lowerCase text.toList)) with
  | some comparison => .ok comparison
  | none => .error ("unknown comparison: " ++ text)

end Comparison

end VersionGate
