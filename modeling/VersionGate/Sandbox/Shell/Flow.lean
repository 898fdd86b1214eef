import VersionGate.Sandbox.Shell.Session
import VersionGate.Sandbox.Signal

namespace VersionGate.Sandbox.Shell.Act

/-- Takes a step; tells its result or what has interrupted it. -/
def attempt {α : Type} (act : Act α) : Act (Except Interrupt α) := fun session => do
  let (result, session) ← act.run session
  return (.ok result, session)

/-- Takes a step, and then another one whatever comes of the first. -/
def finally_ {α : Type} (act : Act α) (last : Act Unit) : Act α := do
  let result ← attempt act
  last
  match result with
  | .ok value => return value
  | .error interrupt => throw interrupt

def receive (signal : Nat) : Act Unit := do
  if signal = 0 || signal ∈ (← shell).ignored then return
  let trapped := ((← shell).traps.lookup signal).filter fun _ => !Signal.isCertain signal
  match trapped with
  | some [] => return
  | some _ => modifyShell fun shell => { shell with pending := shell.pending ++ [signal] }
  | none => if !Signal.isHarmless signal then throw (.ended (.killed signal))

def hear : Act Unit := do
  let rung := (← world).rung
  let heard := (← shell).heard
  if heard < rung.length then
    modifyShell fun shell => { shell with heard := rung.length }
    (rung.take (rung.length - heard)).reverse.forM receive

def pass (duration : Nat) : Act Unit := do
  let world := (← world).after duration
  match world.alarm with
  | some alarm => if alarm.time ≤ world.now then setWorld (world.ring alarm) else setWorld world
  | none => setWorld world
  hear

def commandTime : Nat := 20

def processTime : Nat := 300

def programTime : Nat := 1000

def spend : Act Unit := do
  let world ← world
  if world.steps = 0 then throw .exhausted
  setWorld { world with steps := world.steps - 1 }
  pass commandTime

/-- Takes a step with a value again and again, each time with the value it gave, as long as it says so
and so many times at most. -/
def iterate {α : Type} (act : α → Act (α × Bool)) : Nat → α → Act Unit
  | 0, _ => throw .exhausted
  | count + 1, value => do
    let (value, goesOn) ← act value
    if goesOn then iterate act count value

/-- One turn of a loop; tells whether the loop goes on. -/
def turn (act : Act Bool) : Act Bool := do
  match ← attempt act with
  | .ok goesOn => return goesOn
  | .error (.breakLoops 1) => return false
  | .error (.breakLoops count) => throw (.breakLoops (count - 1))
  | .error (.continueLoops 1) => return true
  | .error (.continueLoops count) => throw (.continueLoops (count - 1))
  | .error interrupt => throw interrupt

def inLoop (act : Act Unit) : Act Unit := do
  let depth := (← shell).loopDepth
  modifyShell fun shell => { shell with loopDepth := depth + 1 }
  finally_ act (modifyShell fun shell => { shell with loopDepth := depth })

def forEach {α : Type} (act : α → Act Unit) : List α → Act Unit
  | [] => return
  | value :: rest => do
    let goesOn ← turn do
      act value
      return true
    if goesOn then forEach act rest

def keepingDescriptors {α : Type} (act : Act α) : Act α := do
  let descriptors := (← shell).descriptors
  finally_ act (modifyShell fun shell => { shell with descriptors })

def statusOf : End → Nat
  | .exited code => code.toNat
  | .killed signal => 128 + signal

end VersionGate.Sandbox.Shell.Act
