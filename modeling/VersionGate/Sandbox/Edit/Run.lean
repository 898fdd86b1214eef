import VersionGate.Sandbox.Edit.Script

/-!
Editing lines with a script.

Each line is brought into the space, the commands that are meant for it are run, and the space is
printed. A text can be kept aside from one line to the next.
-/

namespace VersionGate.Sandbox.Edit

/-- A stream of output; a line without its mark gets one as soon as something follows. -/
structure Output where
  written : List Octets := []
  unfinished : Bool := false

namespace Output

def text (output : Output) : Octets :=
  output.written.reverse.flatten

def put (output : Output) (octets : Octets) : Output :=
  { written := octets :: (if output.unfinished then ['\n'] :: output.written else output.written) }

/-- Writes a line, with its mark unless it lacks it. -/
def putLine (output : Output) (line : Octets) (marked : Bool) : Output :=
  if marked then output.put (line ++ ['\n']) else { output.put line with unfinished := true }

end Output

inductive RangeState where
  | outside
  | inside (last? : Option Nat)
deriving DecidableEq

structure State where
  lines : List (Octets × Bool)
  number : Nat := 0
  space : Octets := []
  marked : Bool := true
  kept : Octets := []
  keptMarked : Bool := true
  queue : List Octets := []
  substituted : Bool := false
  lastRegex : Option Regex := none
  ranges : Array RangeState
  output : Output := {}

inductive Outcome where
  /-- The space is printed, unless the run is quiet. -/
  | finished
  | deleted
  | again
  | quit (code : Nat) (silently : Bool)
deriving DecidableEq

/-- An expression was asked for again, but there was none. -/
inductive NoExpression where
  | noExpression

abbrev Run := ExceptT NoExpression (StateM State)

namespace Run

def regex (wanted : Wanted) : Run Regex := do
  match wanted.or (← get).lastRegex with
  | some regex =>
    modify fun state => { state with lastRegex := some regex }
    return regex
  | none => throw .noExpression

def matchesSpace (wanted : Wanted) : Run Bool := do
  return ((← regex wanted).find (← get).space).isSome

def isAt (address : Address) : Run Bool := do
  let state ← get
  match address with
  | .line number => return state.number = number
  | .stepping first step => return first ≤ state.number && (state.number - first) % step = 0
  | .lastLine => return state.lines.isEmpty
  | .matching wanted => matchesSpace wanted

def stayInside (index : Nat) (last : RangeEnd) (last? : Option Nat) : Run Bool := do
  let leave : Run Unit := modify fun state => { state with
    ranges := state.ranges.setIfInBounds index .outside }
  let state ← get
  match last? with
  | some number =>
    if number ≤ state.number then leave
    return state.number ≤ number
  | none =>
    let ends ← match last with
      | .matching wanted => matchesSpace wanted
      | _ => pure state.lines.isEmpty
    if ends then leave
    return true

def isMeant (index : Nat) (command : Command) : Run Bool := do
  match command.first, command.last with
  | none, _ => return true
  | some address, none => isAt address
  | some address, some last =>
    let state ← get
    match state.ranges.getD index .outside with
    | .inside last? => stayInside index last last?
    | .outside =>
      if !(← isAt address) then return false
      let number := (← get).number
      let last? : Option Nat := match last with
        | .line last => some last
        | .further count => some (number + count)
        | .multiple factor =>
          some (if factor = 0 then number else (number + factor - 1) / factor * factor)
        | .lastLine => none
        | .matching _ => none
      if last?.any (· ≤ number) then return true
      modify fun state => { state with
        ranges := state.ranges.setIfInBounds index (.inside last?) }
      return true

/-! ### Output -/

def write (change : Output → Output) : Run Unit :=
  modify fun state => { state with output := change state.output }

def printSpace : Run Unit := do
  let state ← get
  write fun output => output.putLine state.space state.marked

def enqueue (octets : Octets) : Run Unit :=
  modify fun state => { state with queue := octets :: state.queue }

def writeQueue : Run Unit := do
  let queue := (← get).queue.reverse
  modify fun state => { state with queue := [] }
  queue.forM fun octets => write (·.put octets)

/-- Reads the next line; at the end there is none. -/
def readLine : Run (Option (Octets × Bool)) := do
  let state ← get
  match state.lines with
  | [] => return none
  | line :: lines =>
    set { state with lines, number := state.number + 1 }
    return some line

def nextLine : Run Bool := do
  match ← readLine with
  | none => return false
  | some (space, marked) =>
    modify fun state => { state with space, marked }
    return true

/-! ### Commands -/

def replaced (text : Octets) (pieces : List Piece) (found : Regex.Match) : Octets :=
  pieces.flatMap fun
    | .text octets => octets
    | .group number => found.part text number

def substituted (text : Octets) (pieces : List Piece) (found : List Regex.Match) : Octets :=
  let step : List Octets × Nat × Octets → Regex.Match → List Octets × Nat × Octets :=
    fun (written, position, rest) found =>
      let between := rest.take (found.start - position)
      let rest := rest.drop (found.stop - position)
      (replaced text pieces found :: between :: written, found.stop, rest)
  let (written, _, rest) := found.foldl step ([], 0, text)
  (rest :: written).reverse.flatten

def substitute (substitution : Substitution) : Run Unit := do
  let regex ← regex substitution.wanted
  let text := (← get).space
  let isSingle := substitution.from_ = 1 && !substitution.all
  let found :=
    if isSingle then (regex.find text).toList
    else (regex.findAll text).drop (substitution.from_ - 1)
  let found := if substitution.all then found else found.take 1
  if !found.isEmpty then
    modify fun state => { state with
      space := substituted text substitution.replacement found, substituted := true }
    if substitution.prints then printSpace

/-- The number of the command after the end of the block that starts before some commands. -/
def blockEnd : Nat → Nat → List Command → Nat
  | index, _, [] => index
  | index, depth, command :: commands =>
    match command.action with
    | .opening => blockEnd (index + 1) (depth + 1) commands
    | .closing => if depth = 0 then index + 1 else blockEnd (index + 1) (depth - 1) commands
    | _ => blockEnd (index + 1) depth commands

def commands (quiet : Bool) (script : Array Command) : Nat → Nat → Run Outcome
  | 0, _ => return .quit 0 true
  | fuel + 1, index => do
    match script[index]? with
    | none => return .finished
    | some command =>
      let continued : Run Outcome := commands quiet script fuel (index + 1)
      let meant ← isMeant index command
      if meant = command.negated then
        match command.action with
        | .opening =>
          commands quiet script fuel
            (blockEnd (index + 1) 0 (script.toList.drop (index + 1)))
        | _ => continued
      else
        let state ← get
        match command.action with
        | .substitute substitution =>
          substitute substitution
          continued
        | .append text =>
          enqueue text
          continued
        | .insert text =>
          write (·.put text)
          continued
        | .change text =>
          let isLast : Bool := match state.ranges.getD index .outside with
            | .inside _ => command.negated
            | .outside => true
          if isLast then write (·.put text)
          return .deleted
        | .delete => return .deleted
        | .deleteFirst =>
          if '\n' ∈ state.space then
            let line := state.space.takeWhile (· ≠ '\n')
            modify fun state => { state with space := state.space.drop (line.length + 1) }
            return .again
          else return .deleted
        | .print =>
          printSpace
          continued
        | .printFirst =>
          let line := state.space.takeWhile (· ≠ '\n')
          write fun output => output.putLine line (state.marked || '\n' ∈ state.space)
          continued
        | .next =>
          if state.lines.isEmpty then return .quit 0 false
          if !quiet then printSpace
          writeQueue
          let _ ← nextLine
          continued
        | .addNext =>
          match ← readLine with
          | none => return .quit 0 false
          | some (line, marked) =>
            writeQueue
            modify fun state => { state with space := state.space ++ '\n' :: line, marked }
            continued
        | .keep adds =>
          modify fun state => { state with
            kept := if adds then state.kept ++ '\n' :: state.space else state.space
            keptMarked := state.marked }
          continued
        | .fetch adds =>
          modify fun state => { state with
            space := if adds then state.space ++ '\n' :: state.kept else state.kept
            marked := state.keptMarked }
          continued
        | .exchange =>
          modify fun state => { state with
            space := state.kept, marked := state.keptMarked
            kept := state.space, keptMarked := state.marked }
          continued
        | .quit code silently => return .quit code silently
        | .tellNumber =>
          write (·.put (Octets.ofNat state.number ++ ['\n']))
          continued
        | .jump name ifSubstituted =>
          if ifSubstituted then modify fun state => { state with substituted := false }
          if ifSubstituted && !state.substituted then continued
          else if name.isEmpty then return .finished
          else
            let isLabel (command : Command) : Bool := match command.action with
              | .label other => other = name
              | _ => false
            commands quiet script fuel ((script.findIdx? isLabel).getD script.size)
        | .label _ => continued
        | .opening => continued
        | .closing => continued

/-- Edits all lines; `fresh` tells whether a new line is brought into the space. The result is the
exit code. -/
def cycles (quiet : Bool) (script : Array Command) (supply : Nat) : Nat → Bool → Run Nat
  | 0, _ => return 0
  | fuel + 1, fresh => do
    if fresh then
      let found ← nextLine
      if !found then return 0
      modify fun state => { state with substituted := false }
    let autoPrint : Run Unit := do
      if !quiet then printSpace
    match ← commands quiet script supply 0 with
    | .finished =>
      autoPrint
      writeQueue
      cycles quiet script supply fuel true
    | .deleted =>
      writeQueue
      cycles quiet script supply fuel true
    | .again =>
      writeQueue
      cycles quiet script supply fuel false
    | .quit code silently =>
      if !silently then
        autoPrint
        writeQueue
      return code

end Run

def startState (command : Command) : RangeState :=
  match command.first, command.last with
  | some (.line 0), some (.matching _) => .inside none
  | _, _ => .outside

def limit : Nat := 100000

/-- Edits a text: the output, and the exit code unless an expression was missing. -/
def edit (quiet : Bool) (script : List Command) (text : Octets) : Octets × Option Nat :=
  let lines := (Lines.withMarks '\n' text).map fun line =>
    if line.getLast? = some '\n' then (line.dropLast, true) else (line, false)
  let ranges := (script.map startState).toArray
  let run := Run.cycles quiet script.toArray limit (lines.length + limit) true
  let (result, state) := run.run.run { lines, ranges }
  (state.output.text, result.toOption)

end VersionGate.Sandbox.Edit
