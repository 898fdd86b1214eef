import VersionGate.Sandbox.Shell.Builtin.Basic
import VersionGate.Sandbox.Shell.Flow
import VersionGate.SystemError

namespace VersionGate.Sandbox.Shell.Builtin

def numberArgument (args : List Octets) : Act (Option Nat) := do
  match args with
  | text :: _ => return some (← Act.number text)
  | [] => return none

/-- The exit code to leave with if none is given: the last one, or in a script on a signal the one
before that script. -/
def leavingStatus : Act Nat := do
  let shell ← Act.shell
  return shell.endStatus.getD shell.status

def exit : Builtin := fun _ args => do
  let status ← match ← numberArgument args with
    | some status => pure status
    | none => leavingStatus
  Act.setStatus status
  throw .exiting

def return_ : Builtin := fun _ args => do
  let status ← match ← numberArgument args with
    | some status => pure status
    | none => leavingStatus
  Act.setStatus status
  throw .returned

/-- Leaves loops by some way; outside loops nothing happens. -/
def leaveLoops (way : Nat → Interrupt) : Builtin := fun _ args => do
  let count := (← numberArgument args).getD 1
  if count = 0 then Act.failNumber (args.head?.getD [])
  let depth := (← Act.shell).loopDepth
  if depth = 0 then return 0
  Act.setStatus 0
  throw (way (min count depth))

def break_ : Builtin := leaveLoops .breakLoops

def continue_ : Builtin := leaveLoops .continueLoops

def eval : Builtin := fun runner args => do
  Act.setStatus 0
  runner.script "eval".toList ([' '].intercalate args)
  return (← Act.shell).status

def scriptPath? (name : Octets) : Act (Option Octets) := do
  if '/' ∈ name then return some name
  let shell ← Act.shell
  let tree := (← Act.world).tree
  let candidates := (shell.searchPath.splitOn ':').map fun directory =>
    if directory.isEmpty then name else directory ++ '/' :: name
  return candidates.find? fun path =>
    match tree.find shell.directory path with
    | .ok (_, .document ..) => true
    | .ok (_, .program _) => true
    | _ => false

def readIn : Builtin := fun runner args => do
  match ← plainArguments args with
  | [] => return 0
  | name :: _ =>
    match ← scriptPath? name with
    | none => Act.failAbout name "not found"
    | some path =>
      let shell ← Act.shell
      match (← Act.world).openPath shell.descriptors shell.directory .read path with
      | .error fault =>
        let reason :=
          if fault = .noEntry || fault = .noDirectory then "No such file"
          else systemErrorText fault.number
        Act.fail ("cannot open ".toList ++ path ++ ": ".toList ++ reason.toList)
      | .ok (file, world) =>
        let text := ((world.available file).toOption.getD []).filter (· ≠ '\x00')
        Act.setStatus 0
        runner.script path text
        return (← Act.shell).status

def exec : Builtin := fun runner words => do
  if !words.isEmpty then runner.become words
  return 0

/-! ### Signals -/

def listTraps : Act Unit := do
  let traps := (← Act.shell).traps.mergeSort fun first second => first.1 ≤ second.1
  traps.forM fun (number, script) =>
    let name := if number = 0 then "EXIT".toList else Signal.name number
    Act.printLine ("trap -- ".toList ++ quoted script ++ ' ' :: name)

def setTraps (script? : Option Octets) : List Octets → Act Nat
  | [] => return 0
  | text :: rest => do
    match Signal.ofText? text with
    | none =>
      Act.sayError ("trap: ".toList ++ text ++ ": bad trap".toList)
      return 1
    | some number =>
      Act.modifyShell fun shell =>
        let others := shell.traps.filter (·.1 ≠ number)
        let traps := match script? with
          | some script => (number, script) :: others
          | none => others
        { shell with traps }
      setTraps script? rest

def trap : Builtin := fun _ args => do
  match ← plainArguments args with
  | [] =>
    listTraps
    return 0
  | [signal] => setTraps none [signal]
  | action :: signals =>
    let isSignal := !action.isEmpty && action.all Char.isDigit && (Signal.ofText? action).isSome
    if isSignal then setTraps none (action :: signals)
    else setTraps (if action = ['-'] then none else some action) signals

def findJob? (number : Nat) : Act (Option BackgroundJob) :=
  return (← Act.shell).jobs.find? (·.number = number)

def changeJob (number : Nat) (change : BackgroundJob → BackgroundJob) : Act Unit :=
  Act.modifyShell fun shell => { shell with
    jobs := shell.jobs.map fun job => if job.number = number then change job else job }

/-- Sends a signal to a job; tells whether there still is one. A job that has been run beyond the
present time is taken back to it. -/
def signalJob (runner : Runner) (signal : Nat) (job : BackgroundJob) : Act Bool := do
  if Signal.isHarmless signal then return !job.isAwaited
  match job.ended with
  | none =>
    runner.stopJob signal job.number
    return true
  | some (time, _) =>
    let world ← Act.world
    if world.now < time then
      changeJob job.number fun job => { job with ended := some (world.now, .killed signal) }
      Act.setWorld (world.forget job.number)
    return !job.isAwaited

/-- Sends a signal to a process; tells whether there is one. -/
def send (runner : Runner) (signal number : Nat) : Act Bool := do
  let shell ← Act.shell
  if number = 0 || (number = shell.number && shell.isMain) then
    Act.receive signal
    return true
  else
    match ← findJob? number with
    | some job => signalJob runner signal job
    | none =>
      if number ≤ shell.number && 4711 ≤ number then
        let world ← Act.world
        Act.setWorld
          { world with sent := world.sent ++ [{ time := world.now, number, signal }] }
        return true
      else return false

def killUsage : Octets :=
  "Usage: kill [-s sigspec | -signum | -sigspec] [pid | job]... or\nkill -l [exitstatus]".toList

def listSignals (args : List Octets) : Act Nat := do
  match args with
  | [] =>
    Act.printLine ['0']
    Signal.names.forM fun (_, name) => Act.printLine name.toList
    return 0
  | text :: _ =>
    let number ← Act.number text
    let signal := if 128 < number then number - 128 else number
    if 0 < signal && signal ≤ 64 then
      Act.printLine (Signal.name signal)
      return 0
    else Act.fail ("invalid signal number or exit status: ".toList ++ text)

def sendAll (runner : Runner) (signal : Nat) : List Octets → Nat → Act Nat
  | [], status => return status
  | text :: rest, status => do
    let number ← Act.number (if text.head? = some '-' then text.tail else text)
    if ← send runner signal number then sendAll runner signal rest status
    else
      Act.complain "No such process\n".toList
      sendAll runner signal rest 1

def kill : Builtin := fun runner args => do
  let signalOf? (text : Octets) : Option Nat :=
    (Signal.ofText? text).filter fun number => number ≠ 0 || text.all Char.isDigit
  let (signal?, lists, rest) ← match args with
    | ('-' :: text) :: rest =>
      match signalOf? text with
      | some signal => pure (some signal, false, rest)
      | none =>
        let (asked, rest) ← options "ls:" args
        let signals ← (asked.filter (·.1 = 's')).mapM fun (_, text) => do
          match signalOf? text with
          | some signal => return signal
          | none => Act.fail ("invalid signal number or name: ".toList ++ text)
        pure (signals.getLast?, asked.any (·.1 = 'l'), rest)
    | _ => pure (none, false, args)
  if lists then
    if signal?.isSome then Act.fail killUsage else listSignals rest
  else if rest.isEmpty then Act.fail killUsage
  else sendAll runner (signal?.getD 15) rest 0

/-! ### Jobs -/

/-- Waits until a job has ended; tells its exit code. A signal that has ended it is reported. -/
def await (job : BackgroundJob) : Act Nat := do
  match job.ended with
  | none => return 0
  | some (time, ending) =>
    Act.setWorld { (← Act.world) with now := max (← Act.world).now time }
    changeJob job.number fun job => { job with isAwaited := true }
    match ending with
    | .killed signal =>
      if let some text := Signal.description? signal then
        if !job.isAwaited then Act.sayError text.toList
    | .exited _ => pure ()
    return Act.statusOf ending

/-- How much longer than until a signal comes a shell must wait, for the signal to end the waiting. -/
def signalSlack : Nat := 1500

/-- Lets time go by until some jobs have ended, or until a signal comes for which there is a script.
Tells the signal. -/
def passUntilEnded (runner : Runner) (jobs : List BackgroundJob) : Act (Option Nat) := do
  let shell ← Act.shell
  let world ← Act.world
  let latest := jobs.foldl (fun time job => max time ((job.ended.map (·.1)).getD 0)) world.now
  let isFelt (sending : Sending) : Bool :=
    sending.number = shell.number && shell.isMain && sending.time + signalSlack < latest &&
      !Signal.isHarmless sending.signal && (shell.traps.lookup sending.signal) ≠ some []
  match world.sent.find? isFelt with
  | some sending =>
    Act.setWorld { world with now := max world.now sending.time }
    runner.receive
    return some sending.signal
  | none =>
    Act.pass (latest - world.now)
    runner.receive
    return none

def wait : Builtin := fun runner args => do
  let words ← plainArguments args
  runner.runJobs
  let jobs := (← Act.shell).jobs
  let isMeant (job : BackgroundJob) : Bool :=
    words.isEmpty || words.any (· = Octets.ofNat job.number)
  match ← passUntilEnded runner (jobs.filter isMeant) with
  | some signal => return 128 + signal
  | none =>
    if words.isEmpty then
      Act.modifyShell fun shell =>
        { shell with jobs := shell.jobs.map fun job => { job with isAwaited := true } }
    let statuses ← words.mapM fun text => do
      match ← findJob? (← Act.number text) with
      | some job => await job
      | none => return 127
    return statuses.getLast?.getD 0

/-- Lists the jobs that are under way. There is none, since a job is run to its end before. -/
def listJobs : Builtin := fun runner _ => do
  runner.runJobs
  return 0

end VersionGate.Sandbox.Shell.Builtin
