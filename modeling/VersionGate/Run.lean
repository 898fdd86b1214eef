import VersionGate.Log.Event
import VersionGate.Ui.Call

/-!
Work that leaves a trace.

A run is the list of everything that happened, in order, and the result or the error it ended with.
An error ends a run: what would have come after it leaves no trace.
-/

namespace VersionGate

inductive Event where
  | log (event : Log.Event)
  | say (call : Ui.Call)
  | query (source : String)
  | launch (command : CommandLine)
deriving DecidableEq

structure Run (α : Type) where
  events : List Event
  result : Except GateError α

namespace Run

variable {α β : Type}

def pure (value : α) : Run α :=
  ⟨[], .ok value⟩

def fail (error : GateError) : Run α :=
  ⟨[], .error error⟩

def bind (run : Run α) (next : α → Run β) : Run β :=
  match run.result with
  | .ok value =>
    let later := next value
    ⟨run.events ++ later.events, later.result⟩
  | .error error => ⟨run.events, .error error⟩

instance : Monad Run where
  pure := Run.pure
  bind := Run.bind

def note (event : Event) : Run Unit :=
  ⟨[event], .ok ()⟩

def log (event : Log.Event) : Run Unit :=
  note (.log event)

def say (channel : Ui.Channel) (text : String) : Run Unit :=
  note (.say ⟨channel, text⟩)

def ofExcept : Except GateError α → Run α
  | .ok value => pure value
  | .error error => fail error

def mapError (change : GateError → GateError) (run : Run α) : Run α :=
  ⟨run.events, run.result.mapError change⟩

end Run

def logEvents (events : List Event) : List Log.Event :=
  events.filterMap fun
    | .log event => some event
    | _ => none

def calls (events : List Event) : List Ui.Call :=
  events.filterMap fun
    | .say call => some call
    | _ => none

def queryCount (events : List Event) : Nat :=
  events.countP fun
    | .query _ => true
    | _ => false

def launchCount (events : List Event) : Nat :=
  events.countP fun
    | .launch _ => true
    | _ => false

end VersionGate
