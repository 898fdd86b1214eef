import VersionGate.Text.Blank

namespace VersionGate

/-- A program, looked up on the search path, and its arguments, passed as they are. -/
structure CommandLine where
  program : String
  args : List String
deriving DecidableEq

namespace CommandLine

def words (command : CommandLine) : List String :=
  command.program :: command.args

def display (command : CommandLine) : String :=
  " ".intercalate command.words

/-- The command line made of the words of a text; a blank text has none. There is no quoting. -/
def parse? (text : String) : Option CommandLine :=
  match (Text.words text.toList).map String.ofList with
  | [] => none
  | program :: args => some ⟨program, args⟩

end CommandLine

end VersionGate
