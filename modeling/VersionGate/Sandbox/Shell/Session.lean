import VersionGate.Sandbox.Number
import VersionGate.Sandbox.Shell.Options
import VersionGate.Sandbox.Shell.Syntax

/-!
A running shell, and the steps it takes.

A step changes the shell and the world around it, and either comes to a result or is interrupted. What
was done before an interruption stays done.
-/

namespace VersionGate.Sandbox.Shell

structure Binding where
  value : Option Octets := none
  exported : Bool := false
  readOnly : Bool := false

structure BackgroundJob where
  number : Nat
  ended : Option (Nat × End) := none
  isAwaited : Bool := false

/-- A shell. A copy of it is the beginning of a subshell. -/
structure State where
  name : Octets
  dialect : Dialect := .posix
  arguments : List Octets := []
  bindings : List (Octets × Binding) := []
  functions : List (Octets × Command) := []
  aliases : List (Octets × Octets) := []
  options : List Char := []
  /-- The scripts to run on signals, by number; zero stands for the end of the shell. An empty one
  ignores its signal. -/
  traps : List (Nat × Octets) := []
  /-- The scripts on signals of the shell of which this is a subshell, as long as it has none of its
  own. -/
  outerTraps : List (Nat × Octets) := []
  ignored : List Nat := []
  pending : List Nat := []
  status : Nat := 0
  outputStatus : Nat := 0
  descriptors : Descriptors := []
  directory : Path := []
  way : Path := []
  line : Nat := 0
  readLine : Nat := 1
  running : Option Octets := none
  /-- What the running builtin command has printed, newest first; it is written when the command
  ends. -/
  unwritten : List Octets := []
  loopDepth : Nat := 0
  functionDepth : Nat := 0
  /-- The bindings to put back when functions end, those of the innermost one first. -/
  saved : List (List (Octets × Option Binding)) := []
  documents : List (Nat × Word) := []
  nextDocument : Nat := 0
  number : Nat := 4711
  isMain : Bool := true
  jobs : List BackgroundJob := []
  heard : Nat := 0
  /-- Where the search for options goes on: the number of the next argument, and the place in the one
  before it; the place zero stands for none. -/
  optionPlace : Nat × Nat := (1, 0)
  found : List (Octets × Octets) := []
  /-- The exit code with which the shell ends if a script on its end does not change it. -/
  endStatus : Option Nat := none

inductive Interrupt where
  | breakLoops (count : Nat)
  /-- Leaves all but the last of as many loops, and goes on with the next turn of that one. -/
  | continueLoops (count : Nat)
  | returned
  /-- An error that a script survives only in a plain builtin command. -/
  | failed
  | exiting
  | ended (ending : End)
  | exhausted

structure WaitingJob where
  number : Nat
  start : Nat
  command : Command
  shell : State

structure Session where
  world : World
  shell : State
  waiting : List WaitingJob := []

abbrev Act := ExceptT Interrupt (StateM Session)

namespace Act

def shell : Act State := return (← get).shell

def world : Act World := return (← get).world

def modifyShell (change : State → State) : Act Unit :=
  modify fun session => { session with shell := change session.shell }

def setWorld (world : World) : Act Unit :=
  modify fun session => { session with world }

def setStatus (status : Nat) : Act Unit :=
  modifyShell fun shell => { shell with status }

/-- Writes to a descriptor; tells what was wrong. -/
def write (descriptor : Nat) (octets : Octets) : Act (Option Fault) := do
  match (← shell).descriptors.lookup descriptor with
  | none => return some .badDescriptor
  | some file =>
    match (← world).write file octets with
    | .ok world =>
      setWorld world
      return none
    | .error fault => return some fault

def print (octets : Octets) : Act Unit :=
  modifyShell fun shell => { shell with unwritten := octets :: shell.unwritten }

/-- Writes what was printed; tells what was wrong. -/
def flush : Act (Option Fault) := do
  let octets := (← shell).unwritten.reverse.flatten
  modifyShell fun shell => { shell with unwritten := [] }
  if octets.isEmpty then return none else write 1 octets

def printLine (octets : Octets) : Act Unit :=
  print (octets ++ ['\n'])

def sayError (octets : Octets) : Act Unit := do
  let _ ← write 2 (octets ++ ['\n'])

/-- A complaint in a line on standard error, after the name of the script, the line, and the name of
the builtin command that is running. -/
def complain (text : Octets) : Act Unit := do
  let shell ← shell
  let place := shell.name ++ ": ".toList ++ Octets.ofNat shell.line ++ ": ".toList
  let command := match shell.running with
    | some name => name ++ ": ".toList
    | none => []
  sayError (place ++ command ++ text)

def fail {α : Type} (text : Octets) : Act α := do
  complain text
  setStatus 2
  throw .failed

def failAbout {α : Type} (word : Octets) (text : String) : Act α :=
  fail (word ++ ": ".toList ++ text.toList)

end Act

/-! ### Parameters -/

namespace State

def value? (shell : State) (name : Octets) : Option Octets :=
  (shell.bindings.lookup name).bind (·.value)

def bind (shell : State) (name : Octets) (binding : Binding) : State :=
  { shell with bindings := (name, binding) :: shell.bindings.filter (·.1 ≠ name) }

def unbind (shell : State) (name : Octets) : State :=
  { shell with bindings := shell.bindings.filter (·.1 ≠ name) }

def isOn (shell : State) (option : Char) : Bool :=
  option ∈ shell.options

def separators (shell : State) : Octets :=
  (shell.value? "IFS".toList).getD [' ', '\t', '\n']

/-- The drawer in which a variable is kept; programs get the variables drawer by drawer. -/
def drawer (name : Octets) : Nat :=
  let first := (name.head?.map Char.toNat).getD 0
  name.foldl (fun sum c => sum + c.toNat) (16 * first) % 39

def environment (shell : State) : List (Octets × Octets) :=
  let exported := shell.bindings.filterMap fun (name, binding) =>
    if binding.exported then binding.value.map fun value => (name, value) else none
  exported.reverse.mergeSort fun first second => drawer first.1 ≤ drawer second.1

def searchPath (shell : State) : Octets :=
  (shell.value? "PATH".toList).getD []

end State

namespace Act

def assign (name value : Octets) (exports : Bool := false) : Act Unit := do
  let shell ← shell
  let binding := (shell.bindings.lookup name).getD {}
  if binding.readOnly then failAbout name "is read only"
  let exported := binding.exported || exports || shell.isOn 'a'
  let shell := shell.bind name { binding with value := some value, exported }
  let shell :=
    if name = "OPTIND".toList then
      { shell with optionPlace := (max 1 ((Number.decimal? value).getD 1).toNat, 0) }
    else if name = "PATH".toList then { shell with found := [] }
    else shell
  modifyShell fun _ => shell

def failNumber {α : Type} (text : Octets) : Act α :=
  fail ("Illegal number: ".toList ++ text)

def number (text : Octets) : Act Nat := do
  match Number.decimal? text with
  | some value =>
    if 0 ≤ value && value ≤ 2147483647 && !text.all Number.isBlank then return value.toNat
    else failNumber text
  | none => failNumber text

end Act

end VersionGate.Sandbox.Shell
