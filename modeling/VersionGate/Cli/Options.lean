import VersionGate.Cli.Invocation

/-!
The options of the command line: their spellings, values, variables and descriptions.

This table is the only place that knows them; the parser, the help and the completion scripts are
all made from it.
-/

namespace VersionGate.Cli

inductive Switch where
  | json
  | verbose
  | quiet
  | noColor
  | debug
deriving DecidableEq

inductive Setting where
  | toolchain
  | query
  | compare
  | completions
deriving DecidableEq

inductive Inquiry where
  | help
  | version
deriving DecidableEq

inductive Opt where
  | switch (switch : Switch)
  | setting (setting : Setting)
  | inquiry (inquiry : Inquiry)
deriving DecidableEq

namespace Setting

def valueName : Setting → String
  | toolchain => "TOOLCHAIN"
  | query => "QUERY"
  | compare => "COMPARE"
  | completions => "SHELL"

def envName? : Setting → Option String
  | toolchain => some "TOOLGATE_TOOLCHAIN"
  | query => some "TOOLGATE_QUERY"
  | compare => some "TOOLGATE_COMPARE"
  | completions => none

def default? : Setting → Option String
  | toolchain => some defaultToolchain
  | query => none
  | compare => some (default : Comparison).name
  | completions => none

def values : Setting → List (String × Option String)
  | toolchain => []
  | query => []
  | compare =>
    [(Comparison.lexical.name, some "Plain string ordering of the full version strings"),
      (Comparison.numeric.name, some "Integer ordering of dotted version components")]
  | completions => Shell.all.map fun shell => (shell.name, none)

end Setting

namespace Opt

def all : List Opt :=
  [setting .toolchain, setting .query, setting .compare, switch .json, switch .verbose,
    switch .quiet, switch .noColor, switch .debug, setting .completions, inquiry .help,
    inquiry .version]

def long : Opt → String
  | setting .toolchain => "toolchain"
  | setting .query => "query"
  | setting .compare => "compare"
  | setting .completions => "completions"
  | switch .json => "json"
  | switch .verbose => "verbose"
  | switch .quiet => "quiet"
  | switch .noColor => "no-color"
  | switch .debug => "debug"
  | inquiry .help => "help"
  | inquiry .version => "version"

def short? : Opt → Option Char
  | setting .toolchain => some 't'
  | switch .verbose => some 'v'
  | switch .quiet => some 'q'
  | inquiry .help => some 'h'
  | inquiry .version => some 'V'
  | _ => none

/-- What an option does. The help text of the long form points at the short form, and the other way
round. -/
def description (detailed : Bool) : Opt → String
  | setting .toolchain => "Toolchain name; prefixes the required version"
  | setting .query => "Command that prints the version (default: \"<toolchain> version\")"
  | setting .compare => "How to compare versions"
  | setting .completions => "Print a shell completion script and exit"
  | switch .json => "Print the result as JSON"
  | switch .verbose => "Show the toolchain query command"
  | switch .quiet => "Only print failures"
  | switch .noColor => "Disable colored output"
  | switch .debug => "Enable debug logging"
  | inquiry .help =>
    if detailed then "Print help (see a summary with '-h')"
    else "Print help (see more with '--help')"
  | inquiry .version => "Print version"

def valueText : Opt → String
  | setting chosen => " <" ++ chosen.valueName ++ ">"
  | _ => ""

def shown (opt : Opt) : String :=
  "--" ++ opt.long ++ opt.valueText

def ofLong? (name : String) : Option Opt :=
  all.find? (·.long == name)

def ofShort? (letter : Char) : Option Opt :=
  all.find? (·.short? == some letter)

end Opt

end VersionGate.Cli
