import VersionGate.Sandbox.Shell.Builtin.Table
import VersionGate.Sandbox.Shell.Invocation
import VersionGate.Sandbox.Shell.Reader.Script
import VersionGate.Sandbox.Shell.Redirect

/-!
What running commands consists of, given a way to run the commands inside them.

An engine runs commands and starts programs up to some depth of nesting. Everything here is a step of
an engine one level deeper.
-/

namespace VersionGate.Sandbox.Shell

structure Duty where
  tested : Bool := false
  last : Bool := false

structure Engine where
  run : Duty → Command → Act Unit
  start : Octets → Call → World → Except Fault End × World

namespace Engine

/-! ### Scripts -/

def refuseScript (fault : SyntaxFault) : Act Unit := do
  Act.modifyShell fun shell => { shell with line := fault.line }
  Act.fail ("Syntax error: ".toList ++ fault.message)

def readAndRun (engine : Engine) (tested : Bool) : Nat → Reader → Act Unit
  | 0, _ => throw .exhausted
  | fuel + 1, reader => do
    let shell ← Act.shell
    let fresh := { reader with
      aliases := shell.aliases
      documents := []
      nextDocument := shell.nextDocument }
    let (result, reader) := Reader.readComplete.run.run fresh
    match result with
    | .error fault => refuseScript fault
    | .ok none => return
    | .ok (some command) =>
      Act.modifyShell fun shell => { shell with
        documents := reader.documents ++ shell.documents
        nextDocument := reader.nextDocument
        readLine := reader.line }
      engine.run { tested } command
      if Reader.atEnd reader then return else readAndRun engine tested fuel reader

def script (engine : Engine) (text : Octets) (tested : Bool := false) : Act Unit := do
  let shell ← Act.shell
  let reader : Reader := { rest := text, dialect := shell.dialect }
  Act.finally_ (engine.readAndRun tested (text.length + 2) reader)
    (Act.modifyShell fun inner => { inner with readLine := shell.readLine })

/-! ### Signals -/

def receiveSent : Act Unit := do
  let shell ← Act.shell
  if shell.isMain then
    let world ← Act.world
    let isMine (sending : Sending) : Bool :=
      sending.number = shell.number && sending.time ≤ world.now
    let (mine, others) := world.sent.partition isMine
    Act.setWorld { world with sent := others }
    mine.forM fun sending => Act.receive sending.signal

/-- Runs the script on a signal; the exit code is put back. -/
def runTrap (engine : Engine) (signal : Nat) : Act Unit := do
  let shell ← Act.shell
  match shell.traps.lookup signal with
  | none => return
  | some text =>
    Act.modifyShell fun shell => { shell with endStatus := some shell.status }
    engine.script text
    Act.modifyShell fun inner => { inner with endStatus := shell.endStatus, status := shell.status }

def runTraps (engine : Engine) : Act Unit := do
  let pending := (← Act.shell).pending
  if !pending.isEmpty then
    Act.modifyShell fun shell => { shell with pending := [] }
    pending.forM engine.runTrap

/-! ### Shells and subshells -/

/-- Does something as the whole life of a shell, and then runs the script on its end. -/
def liveAlone (engine : Engine) (body : Act Unit) : Act End := do
  match ← Act.attempt body with
  | .error (.ended ending) => return ending
  | .error .exhausted => throw .exhausted
  | _ =>
    let shell ← Act.shell
    let ending (status : Nat) : End := .exited status.toUInt8
    match shell.traps.lookup 0 with
    | none => return ending shell.status
    | some text =>
      Act.modifyShell fun shell => { shell with
        traps := shell.traps.filter (·.1 ≠ 0)
        endStatus := some shell.status
        loopDepth := 0 }
      match ← Act.attempt (engine.script text) with
      | .error (.ended ending) => return ending
      | .error .exhausted => throw .exhausted
      | .error .exiting => return ending (← Act.shell).status
      | .error .failed => return ending (← Act.shell).status
      | _ => return ending shell.status

/-- Takes the signals that others have sent to this shell, and hears the alarms. -/
def receiveAll : Act Unit := do
  receiveSent
  Act.hear

/-- Runs a job that was started in the background, from its start to its end, or until an alarm. The
time of this shell stays what it is. -/
def runJob (engine : Engine) (stop : Option Alarm) (job : WaitingJob) : Act Unit := do
  let outer ← get
  let alarm := match stop, outer.world.alarm with
    | some stop, _ => some stop
    | none, alarm => alarm
  let started := { outer.world with now := job.start, writer := job.number, alarm }
  let shell := { job.shell with isMain := false, traps := job.shell.traps.filter (·.2.isEmpty) }
  set ({ world := started, shell, waiting := [] } : Session)
  let result ← Act.attempt do
    Act.hear
    Act.pass 0
    engine.liveAlone (engine.run { last := true } job.command)
  let inner ← get
  let ended := match result with
    | .ok ending => some (inner.world.now, ending)
    | .error (.ended ending) => some (inner.world.now, ending)
    | .error _ => some (inner.world.now, .killed 9)
  let changed (known : BackgroundJob) : BackgroundJob :=
    if known.number = job.number then { known with ended } else known
  set ({
    world := { inner.world with
      now := outer.world.now
      writer := outer.world.writer
      alarm := outer.world.alarm
      rung := outer.world.rung }
    shell := { outer.shell with jobs := outer.shell.jobs.map changed }
    waiting := outer.waiting ++ inner.waiting } : Session)

def runJobs (engine : Engine) : Nat → Act Unit
  | 0 => return
  | fuel + 1 => do
    match (← get).waiting with
    | [] => return
    | job :: rest =>
      modify fun session => { session with waiting := rest }
      engine.runJob none job
      runJobs engine fuel

def jobLimit : Nat := 10000

/-- Runs the job with a number up to the present time, at which a signal reaches it. -/
def stopJob (engine : Engine) (signal number : Nat) : Act Unit := do
  let session ← get
  let (jobs, others) := session.waiting.partition (·.number = number)
  set { session with waiting := others }
  jobs.forM (engine.runJob (some { time := session.world.now, signal }))

/-- How much later than a job was started something must happen, for the job to be run before it. -/
def slack : Nat := 3000

def catchUp (engine : Engine) : Act Unit := do
  let session ← get
  if session.waiting.any fun job => job.start + slack < session.world.now then engine.runJobs jobLimit

/-- Does something as the whole life of a shell, and then runs the jobs that it leaves behind. -/
def live (engine : Engine) (body : Act Unit) : Act End := do
  let ending ← engine.liveAlone body
  engine.runJobs jobLimit
  return ending

/-- Does something in a copy of the shell, of which only the world remains. -/
def inSubshell (engine : Engine) (change : State → State) (body : Act Unit) : Act End := do
  let outer ← get
  Act.modifyShell fun shell =>
    change { shell with
      isMain := false
      outerTraps := if shell.outerTraps.isEmpty then shell.traps.filter (!·.2.isEmpty) else shell.outerTraps
      traps := shell.traps.filter (·.2.isEmpty)
      jobs := [] }
  modify fun session => { session with waiting := [] }
  let ending ← Act.finally_ (engine.live (do Act.pass Act.processTime; body))
    (modify fun session => { session with shell := outer.shell, waiting := outer.waiting })
  engine.catchUp
  receiveAll
  return ending

def report (ending : End) : Act Unit := do
  match ending with
  | .killed signal =>
    match Signal.description? signal with
    | some text => Act.sayError text.toList
    | none => return
  | .exited _ => return

/-- Takes the ending of a program as the exit code. A shell that has nothing more to do ends like its
last program. -/
def conclude (duty : Duty) (ending : End) : Act Unit := do
  let isLast := duty.last && (← Act.shell).traps.all (·.2.isEmpty)
  match ending with
  | .killed _ =>
    if isLast then throw (.ended ending)
    report ending
  | .exited _ => pure ()
  Act.setStatus (Act.statusOf ending)

/-- Runs a script in a subshell whose output goes into a pipe; tells the number of the pipe. -/
def pipeFrom (engine : Engine) (command : Command) : Act Nat := do
  let (file, world) := (← Act.world).enter (.pipe [] [])
  Act.setWorld world
  let change (shell : State) : State :=
    { shell with descriptors := Redirect.lead shell.descriptors 1 file }
  let ending ← engine.inSubshell change (engine.run { last := true } command)
  report ending
  Act.modifyShell fun shell => { shell with outputStatus := Act.statusOf ending }
  return file

/-- What a script prints, without the line feeds at its end. -/
def capture (engine : Engine) (command : Command) : Act Octets := do
  match command with
  | .nothing => return []
  | _ =>
    let file ← engine.pipeFrom command
    let world ← Act.world
    let world := { world with now := world.lastTime file }
    let octets := (world.available file).toOption.getD []
    Act.setWorld (world.skip file octets.length)
    let text := octets.filter (· ≠ '\x00')
    return (text.reverse.dropWhile (· = '\n')).reverse

def wordDepth : Nat := 1000

def expander (engine : Engine) : Expander where
  glyphs := Expansion.word engine.capture wordDepth

/-! ### Programs -/

def startComplaint (name : Octets) (fault : Fault) : Octets :=
  let reason :=
    if fault = .noEntry || fault = .noDirectory then "not found" else systemErrorText fault.number
  name ++ ": ".toList ++ reason.toList

def startStatus (fault : Fault) : Nat :=
  if fault ∈ [Fault.noEntry, .noDirectory, .nameTooLong, .linkLoop] then 127 else 126

/-- Starts the first program that can be started of some paths. A file that is no program is taken for
a script. -/
def startFirst (engine : Engine) (call : Call) :
    List Octets → Fault → World → Except Fault End × World
  | [], fault, world => (.error fault, world)
  | path :: paths, fault, world =>
    match engine.start path call world with
    | (.ok ending, world) => (.ok ending, world)
    | (.error .formatError, world) =>
      engine.start "/bin/sh".toList { call with name := "sh".toList, args := path :: call.args } world
    | (.error other, world) =>
      let isMissing := (other = .noEntry || other = .noDirectory) && '/' ∉ call.name
      let fault := if isMissing then fault else other
      startFirst engine call paths fault world

def programPaths (searchPath name : Octets) : List Octets :=
  if '/' ∈ name then [name] else Lookup.candidates searchPath name

/-- Starts the program that some words call. It may take the place of the shell. -/
def startWords (engine : Engine) (searchPath : Octets) (words : List Octets) :
    Act (Except Fault End) := do
  let shell ← Act.shell
  let name := words.head?.getD []
  let call : Call := {
    name
    args := words.tail
    environment := shell.environment
    ignored := shell.ignored ++ (shell.traps.filter (·.2.isEmpty)).map (·.1)
    descriptors := shell.descriptors
    directory := shell.directory }
  let (result, world) :=
    engine.startFirst call (programPaths searchPath name) .noEntry (← Act.world)
  Act.setWorld world
  engine.catchUp
  receiveAll
  return result

def callProgram (engine : Engine) (duty : Duty) (searchPath : Octets) (words : List Octets) :
    Act Unit := do
  let shell ← Act.shell
  let name := words.head?.getD []
  let tree := (← Act.world).tree
  let found :=
    if '/' ∈ name then .ok name else Lookup.search tree shell.directory searchPath name
  match found with
  | .error fault =>
    Act.complain (startComplaint name fault)
    Act.setStatus 127
  | .ok path =>
    if '/' ∉ name then Lookup.remember name path
    Act.pass (Act.processTime + Act.programTime)
    match ← engine.startWords searchPath words with
    | .ok ending => conclude duty ending
    | .error fault =>
      Act.complain (startComplaint name fault)
      Act.setStatus (startStatus fault)

def become (engine : Engine) (words : List Octets) : Act Unit := do
  let name := words.head?.getD []
  match ← engine.startWords (← Act.shell).searchPath words with
  | .ok ending => throw (.ended ending)
  | .error fault =>
    Act.complain (startComplaint name fault)
    Act.setStatus (startStatus fault)
    throw .exiting

/-! ### Functions and builtin commands -/

def callLimit : Nat := 1000

def restoreLocals (locals : List (Octets × Option Binding)) : Act Unit :=
  locals.forM fun (name, binding?) =>
    Act.modifyShell fun shell =>
      match binding? with
      | some binding =>
        if name = Builtin.optionsName then { shell with options := binding.value.getD [] }
        else shell.bind name binding
      | none => shell.unbind name

def callFunction (engine : Engine) (duty : Duty) (body : Command) (words : List Octets) :
    Act Unit := do
  let outer ← Act.shell
  if callLimit ≤ outer.functionDepth then
    Act.fail "Maximum function recursion depth (1000) reached".toList
  Act.modifyShell fun shell => { shell with
    arguments := words.tail
    functionDepth := shell.functionDepth + 1
    loopDepth := 0
    saved := [] :: shell.saved
    optionPlace := (1, 0) }
  let leave : Act Unit := do
    restoreLocals ((← Act.shell).saved.head?.getD [])
    Act.modifyShell fun shell => { shell with
      arguments := outer.arguments
      functionDepth := outer.functionDepth
      loopDepth := outer.loopDepth
      saved := outer.saved
      optionPlace := outer.optionPlace }
  let body := Act.attempt (engine.run { tested := duty.tested } body)
  match ← Act.finally_ body leave with
  | .error .returned => return
  | .error interrupt => throw interrupt
  | .ok () => return

def runner (engine : Engine) (duty : Duty) : Runner where
  script := fun name text => do
    let outer ← Act.shell
    Act.modifyShell fun shell => { shell with running := some name }
    Act.finally_ (engine.script text duty.tested)
      (Act.modifyShell fun shell => { shell with running := outer.running })
  become := engine.become
  runJobs := engine.runJobs jobLimit
  receive := receiveAll
  stopJob := engine.stopJob

/-- Runs a builtin command. Its output is written at its end; only a special one ends a script by an
error. -/
def callBuiltin (engine : Engine) (duty : Duty) (isSpecial : Bool) (name : Octets)
    (args : List Octets) : Act Unit := do
  let outer := (← Act.shell).running
  Act.modifyShell fun shell => { shell with running := some name }
  let result ← Act.attempt do
    Act.setStatus (← Builtin.ofName name (engine.runner duty) args)
  match ← Act.flush with
  | none => pure ()
  | some _ =>
    Act.complain (name ++ ": I/O error".toList)
    Act.modifyShell fun shell => { shell with status := shell.status ||| 1 }
  Act.modifyShell fun shell => { shell with running := outer }
  match result with
  | .ok () => return
  | .error .failed => if isSpecial then throw .failed
  | .error interrupt => throw interrupt

/-! ### Simple commands -/

inductive Callee where
  | nothing
  | function (body : Command)
  | builtin (isSpecial : Bool)
  | program (searchPath : Option Octets)

/-- The words of a simple command, expanded as far as is needed to know what they call. -/
structure Called where
  fields : List Octets
  words : List Word
  isPlain : Bool := false
  usesDefaultPath : Bool := false

def leadingFields (expander : Expander) : List Word → Act (List Octets × List Word)
  | [] => return ([], [])
  | word :: rest => do
    let fields ← expander.fields word
    if fields.isEmpty then leadingFields expander rest else return (fields, rest)

/-- Drops the options for running a command by its name; there are none if it is only asked about. -/
def dropOptions (expander : Expander) : Nat → Called → Act (Option Called)
  | 0, _ => return none
  | fuel + 1, called => do
    let (fields, words) ←
      if called.fields.isEmpty then leadingFields expander called.words
      else pure (called.fields, called.words)
    let called := { called with fields, words }
    match fields with
    | [] => return none
    | ['-', '-'] :: rest =>
      if rest.isEmpty then
        let (fields, words) ← leadingFields expander words
        return if fields.isEmpty then none else some { called with fields, words }
      else return some { called with fields := rest }
    | ('-' :: letter :: letters) :: rest =>
      if (letter :: letters).all (· = 'p') then
        dropOptions expander fuel { called with fields := rest, usesDefaultPath := true }
      else return none
    | _ => return some called

/-- Drops the words in front of a command that only say to run it by its name. -/
def unwrap (expander : Expander) : Nat → Called → Act Called
  | 0, called => return called
  | fuel + 1, called => do
    let isFunction := ((← Act.shell).functions.lookup "command".toList).isSome && !called.isPlain
    if called.fields.head? = some "command".toList && !isFunction then
      let inner := { called with fields := called.fields.tail, isPlain := true }
      match ← dropOptions expander (called.fields.length + called.words.length + 8) inner with
      | some inner => unwrap expander fuel inner
      | none => return { called with isPlain := true }
    else return called

def callee (called : Called) : Act Callee := do
  match called.fields with
  | [] => return .nothing
  | name :: _ =>
    let program := Callee.program (if called.usesDefaultPath then some State.defaultSearchPath else none)
    if '/' ∈ name then return program
    let shell ← Act.shell
    let body? := if called.isPlain then none else shell.functions.lookup name
    match body?, Lookup.builtin? name with
    | some body, _ => return .function body
    | none, some isSpecial => return .builtin (isSpecial && !called.isPlain)
    | none, none => return program

def remainingFields (expander : Expander) (assigns : Bool) (words : List Word) :
    Act (List Octets) := do
  let fields ← words.mapM fun word => do
    match if assigns then Word.assignment? word else none with
    | some (name, value) => return [name ++ '=' :: (← expander.text value)]
    | none => expander.fields word
  return fields.flatten

structure Assigned where
  name : Octets
  value : Octets
  before : Option Binding

/-- Makes the assignments of a command; tells them. -/
def assignAll (expander : Expander) (exports : Bool) : List Word → Act (List Assigned)
  | [] => return []
  | word :: rest => do
    match ← expander.assignment word with
    | none => assignAll expander exports rest
    | some (name, value) =>
      let before := (← Act.shell).bindings.lookup name
      Act.assign name value exports
      return { name, value, before } :: (← assignAll expander exports rest)

def showLine (descriptors : Descriptors) (line : Octets) : Act Unit := do
  match descriptors.lookup 2 with
  | none => return
  | some file =>
    match (← Act.world).write file (line ++ ['\n']) with
    | .ok world => Act.setWorld world
    | .error _ => return

def trace (descriptors : Descriptors) (assigned : List Assigned) (words : List Octets) :
    Act Unit := do
  let shell ← Act.shell
  if shell.isOn 'x' && !(assigned.isEmpty && words.isEmpty) then
    let mark := (shell.value? "PS4".toList).getD []
    let shown := assigned.map (fun made => made.name ++ '=' :: made.value) ++ words
    showLine descriptors (mark ++ [' '].intercalate shown)

def takeBack (assigned : List Assigned) : Act Unit :=
  assigned.reverse.forM fun made =>
    Act.modifyShell fun shell =>
      match made.before with
      | some binding => shell.bind made.name binding
      | none => shell.unbind made.name

def takingBack (assigned : List Assigned) (act : Act Unit) : Act Unit :=
  Act.finally_ act (takeBack assigned)

def call (engine : Engine) (duty : Duty) (descriptors : Descriptors) (assignments : List Word)
    (words : List Octets) (callee : Callee) : Act Unit := do
  let prepare (exports : Bool) : Act (List Assigned) := do
    let assigned ← assignAll engine.expander exports assignments
    trace descriptors assigned words
    return assigned
  let name := words.head?.getD []
  match callee with
  | .nothing =>
    let _ ← prepare false
    Act.setStatus (← Act.shell).outputStatus
  | .builtin true =>
    let _ ← prepare (name = "exec".toList && 1 < words.length)
    engine.callBuiltin duty true name words.tail
  | .builtin false =>
    takingBack (← prepare true) (engine.callBuiltin duty false name words.tail)
  | .function body =>
    takingBack (← prepare true) (engine.callFunction duty body words)
  | .program searchPath? =>
    let assigned ← prepare true
    takingBack assigned do
      let searchPath := searchPath?.getD (← Act.shell).searchPath
      engine.callProgram duty searchPath words

/-- Runs a simple command: its words are expanded, its redirections are made, its assignments are made,
and what it calls is run. -/
def simple (engine : Engine) (duty : Duty) (assignments words : List Word)
    (redirections : List Redirection) : Act Unit := do
  let expander := engine.expander
  Act.modifyShell fun shell => { shell with outputStatus := 0 }
  let (fields, rest) ← leadingFields expander words
  let called ← unwrap expander (words.length + 1) { fields, words := rest }
  let callee ← callee called
  let name := called.fields.head?.getD []
  let assigns := match callee with
    | .builtin _ => Builtin.takesAssignments name
    | _ => false
  let words := called.fields ++ (← remainingFields expander assigns called.words)
  let prepared ← Redirect.prepareAll expander redirections
  let descriptors := (← Act.shell).descriptors
  let isSpecial := match callee with
    | .builtin isSpecial => isSpecial
    | _ => false
  let act : Act Unit := do
    if ← Redirect.applyAll expander Redirect.nameable prepared then
      engine.call duty descriptors assignments words callee
    else
      Act.setStatus 2
      if isSpecial then throw .failed
  -- The redirections of exec without a program stay.
  if name = "exec".toList && words.length = 1 then act else Act.keepingDescriptors act

/-! ### Compound commands -/

def checkFailure (duty : Duty) : Act Unit := do
  let shell ← Act.shell
  if shell.status ≠ 0 && !duty.tested && shell.isOn 'e' then throw .exiting

def setLine (line : Nat) : Act Unit :=
  Act.modifyShell fun shell => { shell with line }

def redirected (engine : Engine) (duty : Duty) (body : Command) (redirections : List Redirection) :
    Act Unit := do
  let expander := engine.expander
  let prepared ← Redirect.prepareAll expander redirections
  Act.keepingDescriptors do
    if ← Redirect.applyAll expander Redirect.nameable prepared then engine.run { tested := duty.tested } body
    else
      Act.setStatus 2
      checkFailure duty

def subshell (engine : Engine) (duty : Duty) (body : Command) (redirections : List Redirection) :
    Act Unit := do
  let expander := engine.expander
  let act : Act Unit := do
    let prepared ← Redirect.prepareAll expander redirections
    if ← Redirect.applyAll expander [] prepared then
      engine.run { tested := duty.tested, last := true } body
    else Act.setStatus 2
  conclude duty (← engine.inSubshell id act)

def pipeSteps : Nat := 20000

def pipeline (engine : Engine) (duty : Duty) : List Command → Option Nat → Act Unit
  | [], _ => return
  | command :: rest, input => do
    let taking (shell : State) : State := match input with
      | some file => { shell with descriptors := Redirect.lead shell.descriptors 0 file }
      | none => shell
    let body := engine.run { tested := duty.tested, last := true } command
    if rest.isEmpty then
      let ending ← engine.inSubshell taking body
      report ending
      Act.setStatus (Act.statusOf ending)
    else
      let (file, world) := (← Act.world).enter (.pipe [] [])
      let steps := world.steps
      let limit := min steps pipeSteps
      Act.setWorld { world with steps := limit }
      let giving (shell : State) : State :=
        let shell := taking shell
        { shell with descriptors := Redirect.lead shell.descriptors 1 file }
      match ← Act.attempt (engine.inSubshell giving body) with
      | .ok ending => report ending
      | .error .exhausted => pure ()
      | .error interrupt => throw interrupt
      let world ← Act.world
      Act.setWorld { world with steps := steps - (limit - world.steps) }
      pipeline engine duty rest (some file)

/-- Starts a job in the background. It is run when its effects may be seen. -/
def background (body : Command) : Act Unit := do
  let (file, world) := (← Act.world).enter (.device .null)
  let number := 4711 + world.shells
  Act.setWorld { world with shells := world.shells + 1 }
  let shell ← Act.shell
  let waiting : WaitingJob := {
    number
    start := world.now + Act.processTime
    command := body
    shell := { shell with descriptors := Redirect.lead shell.descriptors 0 file, jobs := [] } }
  modify fun session => { session with waiting := session.waiting ++ [waiting] }
  Act.modifyShell fun shell => { shell with jobs := { number } :: shell.jobs }
  Act.pass (Act.processTime / 3)
  Act.setStatus 0

def loopTurns : Nat := 1000000

/-- Runs a body as long as a condition holds, or until it does. The exit code is that of the body's last
turn. -/
def loop (engine : Engine) (duty : Duty) (untilTrue : Bool) (condition body : Command) :
    Act Unit := do
  let turn (status : Nat) : Act (Nat × Bool) := do
    let goesOn ← Act.turn do
      engine.run { tested := true } condition
      if ((← Act.shell).status == 0) == untilTrue then
        Act.setStatus status
        return false
      engine.run { tested := duty.tested } body
      return true
    return ((← Act.shell).status, goesOn)
  Act.inLoop (Act.iterate turn loopTurns 0)

def each (engine : Engine) (duty : Duty) (name : Octets) (words : List Word) (body : Command) :
    Act Unit := do
  let fields := (← words.mapM engine.expander.fields).flatten
  if fields.isEmpty then Act.setStatus 0
  let turn (field : Octets) : Act Unit := do
    Act.assign name field
    engine.run { tested := duty.tested } body
  Act.inLoop (Act.forEach turn fields)

/-- Whether a text matches one of some patterns, which are expanded one after the other. -/
def matchesAny (expander : Expander) (text : Octets) : List Word → Act Bool
  | [] => return false
  | word :: rest => do
    if Pattern.isMatch (← expander.pattern word) text then return true
    else matchesAny expander text rest

def findArm (expander : Expander) (text : Octets) : List (List Word × Command) → Act (Option Command)
  | [] => return none
  | (words, body) :: rest => do
    if ← matchesAny expander text words then return some body
    else findArm expander text rest

def choice (engine : Engine) (duty : Duty) (subject : Word) (arms : List (List Word × Command)) :
    Act Unit := do
  let text ← engine.expander.text subject
  match ← findArm engine.expander text arms with
  | none => Act.setStatus 0
  | some .nothing => Act.setStatus 0
  | some body => engine.run duty body

/-- What is done after a command that may have waited for others: the scripts on signals run, and a
failure may end the shell. -/
def settle (engine : Engine) (duty : Duty) : Act Unit := do
  engine.runTraps
  checkFailure duty

def runCommand (engine : Engine) (duty : Duty) (command : Command) : Act Unit := do
  let status : Act Nat := return (← Act.shell).status
  let inner : Duty := { tested := duty.tested }
  if (← Act.shell).isOn 'n' then return
  match command with
  | .nothing => return
  | .simple line assignments words redirections =>
    setLine line
    Act.spend
    engine.simple duty assignments words redirections
    engine.settle duty
  | .redirected line body redirections =>
    setLine line
    engine.redirected duty body redirections
  | .sequence first second =>
    engine.run inner first
    engine.run duty second
  | .both first second =>
    engine.run { tested := true } first
    if (← status) = 0 then engine.run duty second
  | .either first second =>
    engine.run { tested := true } first
    if (← status) ≠ 0 then engine.run duty second
  | .negated body =>
    engine.run { tested := true } body
    Act.setStatus (if (← status) = 0 then 1 else 0)
  | .piped commands =>
    engine.pipeline duty commands none
    engine.settle duty
  | .background body =>
    background body
    engine.settle duty
  | .subshell line body redirections =>
    setLine line
    Act.spend
    engine.subshell duty body redirections
    engine.settle duty
  | .branch condition yes no =>
    engine.run { tested := true } condition
    if (← status) = 0 then engine.run duty yes
    else
      match no with
      | .nothing => Act.setStatus 0
      | _ => engine.run duty no
  | .loop untilTrue condition body => engine.loop duty untilTrue condition body
  | .each line name words body =>
    setLine line
    engine.each duty name words body
  | .choice line subject arms =>
    setLine line
    engine.choice duty subject arms
  | .define line name body =>
    setLine line
    Act.modifyShell fun shell =>
      { shell with functions := (name, body) :: shell.functions.filter (·.1 ≠ name) }
    Act.setStatus 0

/-! ### Programs that are shells -/

def readScript (file : Nat) (world : World) : Octets × World :=
  let text := (world.available file).toOption.getD []
  (text.filter (· ≠ '\x00'), world.skip file text.length)

def shell (engine : Engine) (dialect : Dialect) (call : Call) (world : World) : End × World :=
  let number := 4711 + world.shells
  let world := { world with shells := world.shells + 1 }
  let heard := world.rung.length
  let giveUp (text : Octets) : End × World :=
    let line := call.name ++ ": 0: ".toList ++ text ++ ['\n']
    let written := (call.descriptors.lookup 2).bind fun file => (world.write file line).toOption
    (.exited 2, written.getD world)
  let run (invocation : Invocation) (text : Octets) (world : World) : End × World :=
    let shell := { State.initial dialect call invocation number with heard }
    match (engine.live (engine.script text)).run { world, shell } with
    | (.ok ending, session) => (ending, session.world)
    | (.error _, session) => (.killed 9, session.world)
  match Invocation.read call with
  | .error text => giveUp text
  | .ok invocation =>
    match invocation.input with
    | .text text => run invocation text world
    | .standard =>
      match call.descriptors.lookup 0 with
      | none => run invocation [] world
      | some file =>
        let (text, world) := readScript file world
        run invocation text world
    | .file path =>
      match world.openPath call.descriptors call.directory .read path with
      | .error fault =>
        let reason :=
          if fault = .noEntry || fault = .noDirectory then "No such file"
          else systemErrorText fault.number
        giveUp ("cannot open ".toList ++ path ++ ": ".toList ++ reason.toList)
      | .ok (file, world) =>
        let (text, world) := readScript file world
        run invocation text world

end Engine

end VersionGate.Sandbox.Shell
