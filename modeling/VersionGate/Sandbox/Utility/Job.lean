import VersionGate.Sandbox.Call
import VersionGate.SystemError

/-!
What utilities do: they read their input and files, print, complain, and come to a conclusion.

What is printed is written when the utility ends, or when it asks for that.
-/

namespace VersionGate.Sandbox

structure JobState where
  world : World
  /-- What is printed but not written yet, newest first. -/
  printed : List Octets := []

/-- What a utility knows: how it was called, and how to start programs. -/
structure JobSetting where
  call : Call
  starter : Starter

/-- A step of a utility, which knows its call and may come to a conclusion early. -/
abbrev Job := ReaderT JobSetting (ExceptT Conclusion (StateM JobState))

namespace Job

def call : Job Call :=
  return (← read).call

def world : Job World := return (← get).world

def setWorld (world : World) : Job Unit :=
  modify fun state => { state with world }

def exit {α : Type} (code : UInt8) : Job α :=
  throw (.ended (.exited code))

def print (octets : Octets) : Job Unit :=
  modify fun state => { state with printed := octets :: state.printed }

def printLine (octets : Octets) : Job Unit :=
  print (octets ++ ['\n'])

def sayError (octets : Octets) : Job Unit := do
  match (← call).descriptors.lookup 2 with
  | none => return
  | some file =>
    match (← world).write file octets with
    | .ok world => setWorld world
    | .error _ => return

def faultText (fault : Fault) : Octets :=
  (systemErrorText fault.number).toList

/-- Writes what was printed; tells what stood in the way. -/
def flush : Job (Option Fault) := do
  let octets := (← get).printed.reverse.flatten
  modify fun state => { state with printed := [] }
  if octets.isEmpty then return none
  match (← call).descriptors.lookup 1 with
  | none => return some .badDescriptor
  | some file =>
    match (← world).write file octets with
    | .ok world =>
      setWorld world
      return none
    | .error fault => return some fault

/-- A complaint in a line, after the name of the utility. What was printed before is written before. -/
def complain (text : Octets) : Job Unit := do
  let _ ← flush
  sayError ((← call).name ++ ": ".toList ++ text ++ ['\n'])

def fail {α : Type} (code : UInt8) (text : Octets) : Job α := do
  complain text
  exit code

def sayHint : Job Unit := do
  sayError ("Try '".toList ++ (← call).name ++ " --help' for more information.\n".toList)

def misuse {α : Type} (code : UInt8) (text : Octets) : Job α := do
  complain text
  sayHint
  exit code

/-- Opens a file to read it; a dash stands for standard input. -/
def openInput (path : Octets) : Job (Except Fault Nat) := do
  let call ← call
  if path = ['-'] then
    match call.descriptors.lookup 0 with
    | some file => return .ok file
    | none => return .error .badDescriptor
  else
    match (← world).openPath call.descriptors call.directory .read path with
    | .error fault => return .error fault
    | .ok (file, world) =>
      setWorld world
      return .ok file

def peek (file : Nat) (asked : Nat := 0) : Job (Except Fault Octets) :=
  return (← world).available file asked

def skip (file count : Nat) : Job Unit := do
  setWorld ((← world).skip file count)

def takeAll (file : Nat) : Job (Except Fault Octets) := do
  match ← peek file with
  | .ok octets =>
    skip file octets.length
    return .ok octets
  | .error fault => return .error fault

/-- Takes everything from a file; a dash stands for standard input. -/
def takeFile (path : Octets) : Job (Except Fault Octets) := do
  match ← openInput path with
  | .ok file => takeAll file
  | .error fault => return .error fault

def takeInput : Job (Except Fault Octets) :=
  takeFile ['-']

def openFile? (file : Nat) : Job (Option OpenFile) :=
  return (← world).files[file]?

def putFile (access : Access) (path octets : Octets) : Job (Except Fault Unit) := do
  let call ← call
  let opened := (← world).openPath call.descriptors call.directory access path
  match opened.bind fun (file, world) => world.write file octets with
  | .ok world =>
    setWorld world
    return .ok ()
  | .error fault => return .error fault

def find (path : Octets) (follows : Bool := true) : Job (Except Fault (Path × Node)) :=
  return (← world).tree.find (← call).directory path follows

def changeTree (change : FileTree → FileTree) : Job Unit := do
  let world ← world
  setWorld { world with tree := change world.tree }

/-- Lets time go by, unless an alarm ends the program. -/
def pass (duration : Nat) : Job Unit := do
  let world ← world
  let later := world.after duration
  match world.alarm with
  | some alarm =>
    if alarm.time ≤ later.now then
      let rung := world.ring alarm
      if alarm.signal ∈ (← call).ignored && alarm.signal ≠ 9 then
        setWorld { rung with now := later.now }
      else
        setWorld rung
        throw (.ended (.killed alarm.signal))
    else setWorld later
  | none => setWorld later

/-- Starts the first program that can be started of some paths, and waits for its end. What was printed
is written before. -/
def start (paths : List Octets) (call : Call) : Job (Except Fault End) := do
  let _ ← flush
  let (result, world) := (← read).starter paths call (← world)
  setWorld world
  return result

/-- Does a job as a utility. Output that cannot be written is a failure. -/
def toUtility (job : Job UInt8) : Utility := fun starter call world =>
  let whole : Job Conclusion := fun setting => do
    let conclusion : Conclusion ← fun state =>
      match ((job.run setting).run).run state with
      | (.ok code, state) => (.ok (.ended (.exited code)), state)
      | (.error conclusion, state) => (.ok conclusion, state)
    match ← flush.run setting with
    | none => return conclusion
    | some fault =>
      (complain ("write error: ".toList ++ faultText fault)).run setting
      return .ended (.exited 1)
  match ((whole.run { call, starter }).run).run { world } with
  | (.ok conclusion, state) => (conclusion, state.world)
  | (.error conclusion, state) => (conclusion, state.world)

end Job

end VersionGate.Sandbox
