import VersionGate.Process
import VersionGate.Proofs.Run
import VersionGate.Proofs.Ui.Terminal

namespace VersionGate

def Event.isLog : Event → Bool
  | log _ => true
  | _ => false

namespace Screen

variable {screen : Screen} {stream : Ui.Streams → String}

/-- The texts that a screen writes to a stream for a sequence of events, in order. -/
def texts (screen : Screen) (stream : Ui.Streams → String) (events : List Event) : List String :=
  (events.map fun event => stream (screen.write event)).filter (· != "")

def printed (screen : Screen) (events : List Event) : List String :=
  screen.texts (·.stdout) events

/-- What is written to standard error, less the lines of the log. -/
def complaints (screen : Screen) (events : List Event) : List String :=
  screen.texts (·.stderr) (events.filter (!·.isLog))

/-- Either stream holds the texts that are written to it and nothing else. -/
theorem writeAll_eq (screen : Screen) (events : List Event) :
    screen.writeAll events =
      { stdout := String.join (screen.printed events)
        stderr := String.join (screen.texts (·.stderr) events) } := by
  unfold writeAll printed texts
  rw [Ui.Streams.foldl_append_eq, Ui.join_filter_ne_empty, Ui.join_filter_ne_empty]
  simp

/-- The texts on a stream on which nothing is logged are those that the terminal writes for the calls. -/
theorem texts_eq_calls {events : List Event} (empty : stream {} = "")
    (unlogged : ∀ entry, .log entry ∈ events → stream (screen.write (.log entry)) = "") :
    screen.texts stream events =
      ((calls events).map fun call => stream (screen.terminal.write call)).filter (· != "") := by
  unfold texts
  -- Along the trace, an event other than a call writes nothing to the stream.
  induction events with
  | nil => rfl
  | cons event rest ih =>
      have later := ih fun entry member => unlogged entry (List.mem_cons_of_mem _ member)
      rw [List.map_cons, List.filter_cons, later]
      cases event with
      | say call => simp [write, List.filter_cons]
      | log entry => simp [unlogged entry List.mem_cons_self]
      | query source => simp [write, empty]
      | launch command => simp [write, empty]

theorem stdout_write_log (screen : Screen) (entry : Log.Event) :
    (screen.write (.log entry)).stdout = "" := by
  simp only [write]
  split <;> rfl

theorem printed_eq_calls (screen : Screen) (events : List Event) :
    screen.printed events =
      ((calls events).map fun call => (screen.terminal.write call).stdout).filter (· != "") :=
  texts_eq_calls rfl fun entry _ => screen.stdout_write_log entry

theorem calls_filter_not_log (events : List Event) :
    calls (events.filter (!·.isLog)) = calls events := by
  induction events with
  | nil => rfl
  | cons event rest ih =>
      cases event with
      | say call => exact congrArg (call :: ·) ih
      | log entry => exact ih
      | query source => exact ih
      | launch command => exact ih

theorem complaints_sublist (screen : Screen) (events : List Event) :
    (screen.complaints events).Sublist (screen.texts (·.stderr) events) :=
  (List.filter_sublist.map _).filter _

theorem complaints_eq_calls (screen : Screen) (events : List Event) :
    screen.complaints events =
      ((calls events).map fun call => (screen.terminal.write call).stderr).filter (· != "") := by
  unfold complaints
  rw [texts_eq_calls rfl, calls_filter_not_log]
  intro entry member
  simp [Event.isLog] at member

/-- Standard output is what the terminal writes for the calls alone, so that no log line is on it. -/
theorem stdout_writeAll_eq_terminal (screen : Screen) (events : List Event) :
    (screen.writeAll events).stdout = (screen.terminal.writeAll (calls events)).stdout := by
  rw [writeAll_eq, printed_eq_calls, Ui.join_filter_ne_empty]
  unfold Ui.Terminal.writeAll
  rw [Ui.Streams.foldl_append_eq]
  simp

/-- Without styles the printed texts are the lines of the calls that the mode lets through. -/
theorem printed_of_plain (plain : screen.terminal.theme = .plain) (events : List Event) :
    screen.printed events =
      ((calls events).filter (screen.terminal.mode.prints ·.channel)).map (·.line) := by
  rw [printed_eq_calls]
  simp only [Ui.Terminal.write_of_plain plain]
  exact Ui.filter_lines _ (calls events)

theorem complaints_of_plain (plain : screen.terminal.theme = .plain) (events : List Event) :
    screen.complaints events = ((calls events).filter (·.channel.complains)).map (·.line) := by
  rw [complaints_eq_calls]
  simp only [Ui.Terminal.write_of_plain plain]
  exact Ui.filter_lines _ (calls events)

/-- A process that writes to pipes has no styles, whatever its switches and variables say. -/
theorem ofPipes_plain (invocation : Cli.Invocation) (environment : Cli.Environment)
    (clock : Log.Clock) : (ofPipes invocation environment clock).terminal.theme = .plain :=
  Ui.Terminal.ofProcess_plain _ _ rfl

end Screen

end VersionGate
