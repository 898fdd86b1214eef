import VersionGate.Dispatch
import VersionGate.Log.Filter
import VersionGate.Log.Line
import VersionGate.Text.ControlSequence
import VersionGate.Ui.Terminal

namespace VersionGate

structure Exit where
  code : UInt8
  streams : Ui.Streams
deriving DecidableEq

structure Screen where
  terminal : Ui.Terminal
  filter : Log.Filter
  clock : Log.Clock
  logStyling : Bool

namespace Screen

/-- What one event writes: texts for the user as the terminal has it, log entries to standard error
if the filter shows them. -/
def write (screen : Screen) : Event → Ui.Streams
  | .say call => screen.terminal.write call
  | .log event =>
    if screen.filter.shows event then .errLine (event.line screen.clock screen.logStyling) else {}
  | .query _ => {}
  | .launch _ => {}

def writeAll (screen : Screen) (events : List Event) : Ui.Streams :=
  events.foldl (fun written event => written ++ screen.write event) {}

/-- The screen of a process that writes to pipes. Log lines are styled unless `NO_COLOR` has a value
that is not empty. -/
def ofPipes (invocation : Cli.Invocation) (environment : Cli.Environment) (clock : Log.Clock) :
    Screen where
  terminal := .ofProcess (.ofPipes environment) invocation.mode invocation.noColor
  filter := .ofProcess invocation.debug environment
  clock
  logStyling := ((environment "NO_COLOR").getD "").isEmpty

end Screen

def consultedVariables : List String :=
  [Cli.Setting.toolchain, .query, .compare, .completions].filterMap (·.envName?) ++
    ["RUST_LOG", "NO_COLOR", "CLICOLOR", "CLICOLOR_FORCE"]

/-- Whether what the program says about itself and about its command line is in color although it is
written to a pipe: one variable must ask for it, and the other must not forbid it. -/
def showsColor (environment : Cli.Environment) : Bool :=
  !((environment "CLICOLOR_FORCE").getD "").isEmpty && ((environment "NO_COLOR").getD "").isEmpty

/-- A text in color as the streams of a process carry it: as it is, or else without what it would do to
a terminal. A stream takes up again a sequence that blanks have interrupted. -/
def streamed (environment : Cli.Environment) (styled : String) : String :=
  if showsColor environment then styled else Text.stripControls .resumes styled

def runProcess (host : Host) (environment : Cli.Environment) (clock : Log.Clock)
    (commandLine : List String) : Exit :=
  match Cli.Invocation.parse environment commandLine.tail with
  | .error (.usage error) =>
    { code := Cli.UsageError.exitCode
      streams := .errLine (streamed environment error.styledMessage) }
  | .error (.help detailed) =>
    let text := Cli.Help.styledText detailed (Cli.calledName commandLine.head?) environment
    { code := 0, streams := { stdout := streamed environment text } }
  | .error .version => { code := 0, streams := { stdout := Cli.versionText } }
  | .ok invocation =>
    let screen := Screen.ofPipes invocation environment clock
    let (events, code) := invocation.run host invocation.mode
    { code, streams := screen.writeAll (.log (.starting invocation.text) :: events) }

end VersionGate
