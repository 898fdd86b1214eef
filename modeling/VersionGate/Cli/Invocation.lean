import VersionGate.Comparison
import VersionGate.Gate
import VersionGate.Text.Quoted
import VersionGate.Ui.Mode

namespace VersionGate.Cli

inductive Shell where
  | bash
  | elvish
  | fish
  | powershell
  | zsh
deriving DecidableEq

namespace Shell

def all : List Shell :=
  [bash, elvish, fish, powershell, zsh]

def name : Shell → String
  | bash => "bash"
  | elvish => "elvish"
  | fish => "fish"
  | powershell => "powershell"
  | zsh => "zsh"

def properName : Shell → String
  | bash => "Bash"
  | elvish => "Elvish"
  | fish => "Fish"
  | powershell => "PowerShell"
  | zsh => "Zsh"

def ofName? (text : String) : Option Shell :=
  all.find? (·.name == text)

end Shell

structure CheckOptions where
  minVersion : Option String := none
  extra : List String := []
  toolchain : String := defaultToolchain
  query : Option String := none
  compare : Comparison := default
  json : Bool := false
deriving DecidableEq

/-- The query command of a check; by default the toolchain is asked for its version. -/
def CheckOptions.queryCommand (options : CheckOptions) : String :=
  options.query.getD (options.toolchain ++ " version")

structure Invocation where
  check : CheckOptions := {}
  verbose : Bool := false
  quiet : Bool := false
  noColor : Bool := false
  debug : Bool := false
  completions : Option Shell := none
deriving DecidableEq

namespace Invocation

def mode (invocation : Invocation) : Ui.Mode :=
  .ofFlags invocation.verbose invocation.quiet

def recordText (name : String) (fields : List (String × String)) : String :=
  name ++ " \x7b " ++ ", ".intercalate (fields.map fun (field, value) => field ++ ": " ++ value) ++
    " \x7d"

def optionText : Option String → String
  | some text => "Some(" ++ text ++ ")"
  | none => "None"

def boolText (value : Bool) : String :=
  if value then "true" else "false"

def comparisonText : Comparison → String
  | .lexical => "Lexical"
  | .numeric => "Numeric"

def text (invocation : Invocation) : String :=
  let check := invocation.check
  recordText "Cli"
    [("check", recordText "CheckArgs"
        [("min_version", optionText (check.minVersion.map Text.quote)),
          ("extra", "[" ++ ", ".intercalate (check.extra.map Text.quote) ++ "]"),
          ("toolchain", Text.quote check.toolchain),
          ("query", optionText (check.query.map Text.quote)),
          ("compare", comparisonText check.compare),
          ("json", boolText check.json)]),
      ("verbose", boolText invocation.verbose),
      ("quiet", boolText invocation.quiet),
      ("no_color", boolText invocation.noColor),
      ("debug", boolText invocation.debug),
      ("completions", optionText (invocation.completions.map (·.properName)))]

end Invocation

end VersionGate.Cli
