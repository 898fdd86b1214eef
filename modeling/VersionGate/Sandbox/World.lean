import VersionGate.Sandbox.FileTree

/-!
What the programs of the sandbox share: the file tree, the open files, the two streams that are seen
from outside, and the time.

Programs run one after the other even where they run side by side. So what they write is stamped with
the time at which they write it, and is read in that order.

An open file has a number. A process knows it under descriptors of its own, and several descriptors
of several processes may lead to one open file, which then has one position for all of them.
-/

namespace VersionGate.Sandbox

structure Writing where
  time : Nat
  writer : Nat
  octets : Octets

inductive OpenFile where
  | output (stream : Stream)
  /-- A pipe: what waits to be read, and after it what was written since, newest first. -/
  | pipe (waiting : Octets) (written : List Writing)
  | document (path : Path) (offset : Nat) (reads writes appends : Bool)
  | device (device : Device)
  | folder (path : Path)
  | program

inductive Access where
  | read
  | replace
  | create
  | append
  | readWrite
deriving DecidableEq

namespace Access

def reads : Access → Bool
  | read | readWrite => true
  | _ => false

def writes : Access → Bool
  | read => false
  | _ => true

end Access

/-- The descriptors of a process: the open files it knows, by their numbers. -/
abbrev Descriptors := List (Nat × Nat)

structure Alarm where
  time : Nat
  signal : Nat

structure Sending where
  time : Nat
  number : Nat
  signal : Nat

structure World where
  tree : FileTree := {}
  files : Array OpenFile := #[]
  written : List (Stream × Writing) := []
  now : Nat := 0
  /-- The number of the job that is running; zero stands for none. -/
  writer : Nat := 0
  alarm : Option Alarm := none
  rung : List Nat := []
  steps : Nat := 0
  shells : Nat := 0
  sent : List Sending := []

namespace World

def enter (world : World) (file : OpenFile) : Nat × World :=
  (world.files.size, { world with files := world.files.push file })

def after (world : World) (duration : Nat) : World :=
  { world with now := world.now + duration }

def ring (world : World) (alarm : Alarm) : World :=
  { world with
    now := max world.now alarm.time
    alarm := none
    rung := alarm.signal :: world.rung }

def inTime (written : List Writing) : Octets :=
  (written.reverse.mergeSort fun first second => first.time ≤ second.time).flatMap (·.octets)

def forget (world : World) (writer : Nat) : World :=
  let stays (writing : Writing) : Bool := writing.writer ≠ writer || writing.time ≤ world.now
  { world with
    written := world.written.filter fun (_, writing) => stays writing
    files := world.files.map fun
      | .pipe waiting written => .pipe waiting (written.filter stays)
      | file => file }

/-- The time at which the last of what waits in a pipe was written, or the present time if that is
later. -/
def lastTime (world : World) (number : Nat) : Nat :=
  match world.files[number]? with
  | some (.pipe _ written) => written.foldl (fun time writing => max time writing.time) world.now
  | _ => world.now

/-- All that was written to the streams seen from outside, in the order of time. -/
def output (world : World) : List (Stream × Octets) :=
  (world.written.reverse.mergeSort fun first second => first.2.time ≤ second.2.time).map
    fun (stream, writing) => (stream, writing.octets)

/-- The least number of zero bytes that are read from an endless file at a time. -/
def zeroCount : Nat := 65536

/-- What can be read from an open file; an endless one gives as much as is asked for. -/
def available (world : World) (number : Nat) (asked : Nat := 0) : Except Fault Octets :=
  match world.files[number]? with
  | some (.pipe waiting written) => .ok (waiting ++ inTime written)
  | some (.document path offset true _ _) =>
    match world.tree.node? path with
    | some (.document content _) => .ok (content.drop offset)
    | _ => .ok []
  | some (.device .null) => .ok []
  | some (.device _) => .ok (List.replicate (max asked zeroCount) '\x00')
  | some (.folder _) => .error .isDirectory
  | some .program => .ok []
  | _ => .error .badDescriptor

def skip (world : World) (number count : Nat) : World :=
  match world.files[number]? with
  | some (.pipe waiting written) =>
    let waiting := waiting ++ inTime written
    { world with files := world.files.setIfInBounds number (.pipe (waiting.drop count) []) }
  | some (.document path offset reads writes appends) =>
    let moved := OpenFile.document path (offset + count) reads writes appends
    { world with files := world.files.setIfInBounds number moved }
  | _ => world

def write (world : World) (number : Nat) (octets : Octets) : Except Fault World :=
  let writing : Writing := { time := world.now, writer := world.writer, octets }
  match world.files[number]? with
  | some (.output stream) => .ok { world with written := (stream, writing) :: world.written }
  | some (.pipe waiting written) =>
    let longer := OpenFile.pipe waiting (writing :: written)
    .ok { world with files := world.files.setIfInBounds number longer }
  | some (.document path offset reads true appends) =>
    match world.tree.node? path with
    | some (.document content executable) =>
      let start := if appends then content.length else offset
      let padding := List.replicate (start - content.length) '\x00'
      let changed := content.take start ++ padding ++ octets ++ content.drop (start + octets.length)
      let moved := OpenFile.document path (start + octets.length) reads true appends
      .ok { world with
        tree := world.tree.put path (.document changed executable)
        files := world.files.setIfInBounds number moved }
    | _ => .ok world
  | some (.device .full) => if octets.isEmpty then .ok world else .error .full
  | some (.device _) => .ok world
  | _ => .error .badDescriptor

def openNode (world : World) (descriptors : Descriptors) (access : Access) (path : Path) :
    Node → Except Fault (Nat × World)
  | .directory =>
    if access.writes then .error .isDirectory else .ok (world.enter (.folder path))
  | .program _ => if access.writes then .error .noPermission else .ok (world.enter .program)
  | .device .terminal => .error .noEntry
  | .device device => .ok (world.enter (.device device))
  | .descriptor number =>
    match descriptors.lookup number with
    | some file => .ok (file, world)
    | none => .error .noEntry
  | .link _ => .error .linkLoop
  | .document _ executable =>
    let world :=
      if access = .replace then { world with tree := world.tree.put path (.document [] executable) }
      else world
    .ok (world.enter (.document path 0 access.reads access.writes (access = .append)))

def openPath (world : World) (descriptors : Descriptors) (directory : Path) (access : Access)
    (text : Octets) : Except Fault (Nat × World) := do
  match ← world.tree.locate directory text with
  | (path, some node) =>
    if access = .create then throw .alreadyExists
    world.openNode descriptors access path node
  | (path, none) =>
    if access = .read then throw .noEntry
    let made := { world with tree := world.tree.put path (.document [] false) }
    return made.enter (.document path 0 access.reads true (access = .append))

end World

end VersionGate.Sandbox
