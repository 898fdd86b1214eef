import VersionGate.Ui.Call
import VersionGate.Ui.Mode
import VersionGate.Ui.Style

/-!
Output on the two standard streams.

Messages, details, successes, failures and data go to standard output, where build pipelines read
them; warnings and errors go to standard error. The mode silences messages, details and successes
only.
-/

namespace VersionGate.Ui

structure Streams where
  stdout : String := ""
  stderr : String := ""
deriving DecidableEq

namespace Streams

instance : Append Streams where
  append first second := ⟨first.stdout ++ second.stdout, first.stderr ++ second.stderr⟩

def outLine (text : String) : Streams := { stdout := text ++ "\n" }

def errLine (text : String) : Streams := { stderr := text ++ "\n" }

end Streams

structure Terminal where
  mode : Mode
  theme : Theme
  styling : Bool
deriving DecidableEq

namespace Terminal

def write (terminal : Terminal) (call : Call) : Streams :=
  match call.channel with
  | .message => if terminal.mode.showsStatus then .outLine call.text else {}
  | .detail =>
    if terminal.mode.showsDetail then
      .outLine (terminal.theme.detailLine terminal.styling call.text)
    else {}
  | .success =>
    if terminal.mode.showsStatus then
      .outLine (terminal.theme.successLine terminal.styling call.text)
    else {}
  | .warning => .errLine (terminal.theme.warningLine terminal.styling call.text)
  | .error => .errLine (terminal.theme.errorLine terminal.styling call.text)
  | .failure => .outLine (terminal.theme.failureLine terminal.styling call.text)
  | .data => .outLine call.text

def writeAll (terminal : Terminal) (calls : List Call) : Streams :=
  calls.foldl (fun written call => written ++ terminal.write call) {}

end Terminal

structure Surroundings where
  isTerminal : Bool
  refusesColor : Bool
  forcesStyling : Option String
  wantsStyling : Option String

namespace Surroundings

/-- Colors are used on a terminal only, and not against the user's wish. -/
def usesColors (surroundings : Surroundings) : Bool :=
  !surroundings.refusesColor && surroundings.isTerminal

/-- Styles are written on a terminal unless switched off, and elsewhere only if forced. -/
def styling (surroundings : Surroundings) : Bool :=
  (surroundings.isTerminal && surroundings.wantsStyling.getD "1" != "0") ||
    surroundings.forcesStyling.getD "0" != "0"

def ofPipes (environment : String → Option String) : Surroundings where
  isTerminal := false
  refusesColor := (environment "NO_COLOR").isSome
  forcesStyling := environment "CLICOLOR_FORCE"
  wantsStyling := environment "CLICOLOR"

end Surroundings

def Terminal.ofProcess (surroundings : Surroundings) (mode : Mode) (noColor : Bool) : Terminal where
  mode
  theme := .ofColors (!noColor && surroundings.usesColors)
  styling := surroundings.styling

end VersionGate.Ui
