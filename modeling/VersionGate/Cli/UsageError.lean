import VersionGate.Cli.Options
import VersionGate.Ui.Style

namespace VersionGate.Cli

inductive UsageError where
  | unknownOption (shown : String)
  | valueRequired (setting : Setting)
  | invalidValue (value : String) (setting : Setting)
  | unexpectedValue (value : String) (opt : Opt)
  | repeated (opt : Opt)
deriving DecidableEq

namespace UsageError

/-- The exit code of a refused command line; it differs from every verdict of the gate. -/
def exitCode : UInt8 := 64

def quoted (style : Ui.Style) (text : String) : String :=
  "'" ++ style.apply true text ++ "'"

def fault : String → String :=
  quoted ⟨["33"]⟩

def place : String → String :=
  quoted ⟨["1"]⟩

/-- The message in color, with the words of the command line as they were given. -/
def styledMessage (error : UsageError) : String :=
  Ui.Style.apply ⟨["1", "31"]⟩ true "error:" ++ " " ++
    match error with
    | unknownOption shown => "unexpected argument " ++ fault shown ++ " found"
    | valueRequired setting =>
      "a value is required for " ++ fault (Opt.setting setting).shown ++ " but none was supplied"
    | invalidValue value setting =>
      "invalid value " ++ fault value ++ " for " ++ place (Opt.setting setting).shown
    | unexpectedValue value opt =>
      "unexpected value " ++ fault value ++ " for " ++ place opt.shown ++
        " found; no more were expected"
    | repeated opt => "the argument " ++ fault opt.shown ++ " cannot be used multiple times"

/-- The error of a value that is not one of those allowed: an empty one counts as missing. -/
def ofValue (value : String) (setting : Setting) : UsageError :=
  if value.isEmpty then valueRequired setting else invalidValue value setting

end UsageError

end VersionGate.Cli
