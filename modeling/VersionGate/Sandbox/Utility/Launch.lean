import VersionGate.Sandbox.Format.Floating
import VersionGate.Sandbox.Utility.Arguments

namespace VersionGate.Sandbox.Utility

def launchCode (fault : Fault) : UInt8 :=
  if fault = .noEntry || fault = .noDirectory then 127 else 126

def locateProgram (call : Call) : Job (Except Fault Octets) := do
  let tree := (← Job.world).tree
  match Program.find tree call.directory (call.environment.lookup "PATH".toList) call.name with
  | .error fault => return .error fault
  | .ok path =>
    match Program.executable tree call.directory path with
    | .ok _ => return .ok path
    | .error fault => return .error fault

def callOf (words : List Octets) : Job Call := do
  return { (← Job.call) with name := words.head?.getD [], args := words.tail }

/-! ### Waiting -/

/-- The stretch of time that a text stands for, in microseconds: a number that is not negative, and a
unit. -/
def interval? (text : Octets) : Option Nat := do
  let reading := Floating.read .extended text
  let unit ← match reading.rest with
    | [] => some 1
    | [letter] => [('s', 1), ('m', 60), ('h', 3600), ('d', 86400)].lookup letter
    | _ => none
  if !reading.found then none
  match reading.value.magnitude with
  | .notNumber => none
  | .infinite => if reading.value.negative then none else some 1000000000000000
  | .finite fraction exponent =>
    if reading.value.negative && fraction ≠ 0 then none
    else
      let micros := fraction * unit * 1000000
      some (if 0 ≤ exponent then micros * Nat.pow 2 exponent.toNat
        else micros / Nat.pow 2 (-exponent).toNat)

def intervalComplaint (text : Octets) : Octets :=
  "invalid time interval ".toList ++ Quotation.quoted text

def sleep : Job UInt8 := do
  let parsed ← Arguments.readOperands { known := [] } 1
  let wrong := parsed.operands.filter fun text => (interval? text).isNone
  wrong.forM fun text => Job.complain (intervalComplaint text)
  if wrong.isEmpty then
    Job.pass ((parsed.operands.filterMap interval?).foldl (· + ·) 0)
    return 0
  else
    Job.sayHint
    return 1

/-- Starts a program under an alarm, unless one is set that rings earlier; tells whether it rang. -/
def startUnder (alarm : Alarm) (path : Octets) (call : Call) : Job (Bool × Except Fault End) := do
  let before ← Job.world
  let isOwn := before.alarm.all fun other => alarm.time < other.time
  if isOwn then Job.setWorld { before with alarm := some alarm }
  let result ← Job.start [path] call
  let after ← Job.world
  if isOwn then Job.setWorld { after with alarm := before.alarm, rung := before.rung }
  return (isOwn && before.rung.length < after.rung.length, result)

def timeout : Job UInt8 := do
  let parsed ← Arguments.read { known := [], ordered := true, misuse := 125 }
  match parsed.operands with
  | interval :: program :: args =>
    let some duration := interval? interval | Job.misuse 125 (intervalComplaint interval)
    let call ← callOf (program :: args)
    match ← locateProgram call with
    | .error fault =>
      Job.fail (launchCode fault)
        ("failed to run command ".toList ++ Quotation.quoted program ++ ": ".toList ++
          Job.faultText fault)
    | .ok path =>
      if duration = 0 then throw (.becomes path call)
      let alarm : Alarm := { time := (← Job.world).now + duration, signal := 15 }
      match ← startUnder alarm path call with
      | (_, .error fault) => return launchCode fault
      | (true, .ok ending) => return if ending = .killed 9 then 137 else 124
      | (false, .ok ending) => throw (.ended ending)
  | _ =>
    Job.sayHint
    return 125

/-! ### Running in other circumstances -/

def assignment (entry : Octets × Octets) : Octets :=
  entry.1 ++ '=' :: entry.2

/-- Sets a variable of an environment: in its place, or at the end. -/
def setVariable (environment : List (Octets × Octets)) (name value : Octets) :
    List (Octets × Octets) :=
  if environment.any (·.1 = name) then
    environment.map fun entry => if entry.1 = name then (name, value) else entry
  else environment ++ [(name, value)]

def env : Job UInt8 := do
  let call ← Job.call
  let parsed ← Arguments.read {
    known := [
      { letter := 'i', long := "ignore-environment" },
      { letter := 'u', long := "unset", value := .needed }]
    ordered := true
    misuse := 125 }
  let start := if parsed.has 'i' then [] else call.environment
  let removed := parsed.values 'u'
  let start := start.filter fun entry => !removed.contains entry.1
  let assignments := parsed.operands.takeWhile (·.contains '=')
  let environment := assignments.foldl
    (fun environment word =>
      let name := word.takeWhile (· ≠ '=')
      setVariable environment name (word.drop (name.length + 1)))
    start
  match parsed.operands.drop assignments.length with
  | [] =>
    Job.print (Lines.toText '\n' (environment.map assignment))
    return 0
  | program =>
    let next := { ← callOf program with environment }
    match ← locateProgram next with
    | .ok path => throw (.becomes path next)
    | .error fault =>
      Job.complain (Quotation.quoted next.name ++ ": ".toList ++ Job.faultText fault)
      return launchCode fault

end VersionGate.Sandbox.Utility
