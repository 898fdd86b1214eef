import VersionGate.Run

namespace VersionGate.Run

variable {α β : Type} {run : Run α} {next : α → Run β} {value : α} {error : GateError}

@[simp] theorem events_pure (value : α) : (Pure.pure value : Run α).events = [] := rfl

@[simp] theorem result_pure (value : α) : (Pure.pure value : Run α).result = .ok value := rfl

@[simp] theorem result_note (event : Event) : (note event).result = .ok () := rfl

@[simp] theorem result_log (event : Log.Event) : (log event).result = .ok () := rfl

@[simp] theorem events_ofExcept (result : Except GateError α) : (ofExcept result).events = [] := by
  cases result <;> rfl

@[simp] theorem result_ofExcept (result : Except GateError α) :
    (ofExcept result).result = result := by
  cases result <;> rfl

theorem bind_of_ok (done : run.result = .ok value) :
    run >>= next = ⟨run.events ++ (next value).events, (next value).result⟩ := by
  change run.bind next = _
  simp only [bind, done]

theorem bind_of_error (failed : run.result = .error error) :
    run >>= next = ⟨run.events, .error error⟩ := by
  change run.bind next = _
  simp only [bind, failed]

theorem result_bind (run : Run α) (next : α → Run β) :
    (run >>= next).result = run.result.bind fun value => (next value).result := by
  cases ending : run.result with
  | error error =>
      rw [bind_of_error ending]
      rfl
  | ok value =>
      rw [bind_of_ok ending]
      rfl

@[simp] theorem mk_bind_ok {events : List Event} :
    (⟨events, .ok value⟩ : Run α) >>= next = ⟨events ++ (next value).events, (next value).result⟩ :=
  rfl

@[simp] theorem mk_bind_error {events : List Event} :
    (⟨events, .error error⟩ : Run α) >>= next = ⟨events, .error error⟩ := rfl

@[simp] theorem mk_mapError {events : List Event} {result : Except GateError α}
    {change : GateError → GateError} :
    (⟨events, result⟩ : Run α).mapError change = ⟨events, result.mapError change⟩ := rfl

end VersionGate.Run

namespace VersionGate

def launches (events : List Event) : List CommandLine :=
  events.filterMap fun
    | .launch command => some command
    | _ => none

@[simp] theorem launches_nil : launches [] = [] := rfl

@[simp] theorem launches_append (earlier later : List Event) :
    launches (earlier ++ later) = launches earlier ++ launches later := by
  simp [launches]

@[simp] theorem launches_log (event : Log.Event) (later : List Event) :
    launches (.log event :: later) = launches later := rfl

@[simp] theorem launches_say (call : Ui.Call) (later : List Event) :
    launches (.say call :: later) = launches later := rfl

@[simp] theorem launches_query (source : String) (later : List Event) :
    launches (.query source :: later) = launches later := rfl

@[simp] theorem launches_launch (command : CommandLine) (later : List Event) :
    launches (.launch command :: later) = command :: launches later := rfl

theorem launchCount_eq_length (events : List Event) :
    launchCount events = (launches events).length := by
  induction events with
  | nil => rfl
  | cons event rest ih =>
      unfold launchCount at ih ⊢
      cases event <;> simp [ih]

@[simp] theorem launchCount_nil : launchCount [] = 0 := rfl

@[simp] theorem launchCount_append (earlier later : List Event) :
    launchCount (earlier ++ later) = launchCount earlier + launchCount later := by
  simp [launchCount]

@[simp] theorem launchCount_say (call : Ui.Call) (later : List Event) :
    launchCount (.say call :: later) = launchCount later := rfl

@[simp] theorem calls_nil : calls [] = [] := rfl

@[simp] theorem calls_append (earlier later : List Event) :
    calls (earlier ++ later) = calls earlier ++ calls later := by
  simp [calls]

@[simp] theorem calls_log (event : Log.Event) (later : List Event) :
    calls (.log event :: later) = calls later := rfl

@[simp] theorem calls_say (call : Ui.Call) (later : List Event) :
    calls (.say call :: later) = call :: calls later := rfl

@[simp] theorem calls_query (source : String) (later : List Event) :
    calls (.query source :: later) = calls later := rfl

@[simp] theorem calls_launch (command : CommandLine) (later : List Event) :
    calls (.launch command :: later) = calls later := rfl

@[simp] theorem logEvents_nil : logEvents [] = [] := rfl

@[simp] theorem logEvents_append (earlier later : List Event) :
    logEvents (earlier ++ later) = logEvents earlier ++ logEvents later := by
  simp [logEvents]

@[simp] theorem logEvents_log (event : Log.Event) (later : List Event) :
    logEvents (.log event :: later) = event :: logEvents later := rfl

@[simp] theorem logEvents_say (call : Ui.Call) (later : List Event) :
    logEvents (.say call :: later) = logEvents later := rfl

@[simp] theorem logEvents_query (source : String) (later : List Event) :
    logEvents (.query source :: later) = logEvents later := rfl

@[simp] theorem logEvents_launch (command : CommandLine) (later : List Event) :
    logEvents (.launch command :: later) = logEvents later := rfl

end VersionGate
