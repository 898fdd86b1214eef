import VersionGate.Sandbox.Utility.Arguments

namespace VersionGate.Sandbox.Utility

/-- Goes through operands; those that fail make the exit code one. -/
def eachOperand (operands : List Octets) (act : Octets → Job Bool) : Job UInt8 := do
  let step (code : UInt8) (operand : Octets) : Job UInt8 := do
    return if ← act operand then code else 1
  operands.foldlM step 0

def blameOperand (before : String) (operand : Octets) (after : Octets) : Job Bool := do
  Job.complain (before.toList ++ ' ' :: Quotation.commandText operand ++ after)
  return false

def blameFault (before : String) (operand : Octets) (fault : Fault) : Job Bool :=
  blameOperand before operand (": ".toList ++ Job.faultText fault)

def locate (path : Octets) (follows : Bool := true) : Job (Except Fault (Path × Option Node)) := do
  return (← Job.world).tree.locate (← Job.call).directory path follows

/-! ### Listing -/

/-- The names in a directory, in order. Those with a dot in front are left out unless they are asked
for. -/
def listedNames (parsed : Arguments.Parsed) (tree : FileTree) (path : Path) : List Octets :=
  let isShown (name : Octets) : Bool := parsed.has 'a' || parsed.has 'A' || name.head? ≠ some '.'
  let dots := if parsed.has 'a' then [['.'], ['.', '.']] else []
  (dots ++ (tree.names path).filter isShown).mergeSort Octets.inOrder

def ls : Job UInt8 := do
  let parsed ← Arguments.read {
    known := [
      { letter := '1' }, { letter := 'a', long := "all" }, { letter := 'A', long := "almost-all" },
      { letter := 'd', long := "directory" }]
    misuse := 2 }
  let operands := if parsed.operands.isEmpty then [['.']] else parsed.operands
  let found ← operands.mapM fun operand => return (operand, ← Job.find operand)
  let folder? : Octets × Except Fault (Path × Node) → Option (Octets × Path)
    | (operand, .ok (path, .directory)) => if parsed.has 'd' then none else some (operand, path)
    | _ => none
  let folders := found.filterMap folder?
  let files := found.filter fun item => item.2.isOk && (folder? item).isNone
  found.forM fun (operand, result) => do
    if let .error fault := result then let _ ← blameFault "cannot access" operand fault
  Job.print (Lines.toText '\n' ((files.map (·.1)).mergeSort Octets.inOrder))
  let tree := (← Job.world).tree
  let sections := folders.map fun (operand, path) =>
    (if 1 < operands.length then operand ++ [':', '\n'] else []) ++
      Lines.toText '\n' (listedNames parsed tree path)
  if !files.isEmpty && !sections.isEmpty then Job.print ['\n']
  Job.print (['\n'].intercalate sections)
  return if found.all (·.2.isOk) then 0 else 2

/-! ### Removing and making -/

/-- A tree without what lies at a path and below it. -/
def withoutBranch (tree : FileTree) (path : Path) : FileTree :=
  { entries := tree.entries.filter fun entry => !path.isPrefixOf entry.1 }

def lastPart (path : Octets) : Octets :=
  ((cutPath path).filter (!·.isEmpty)).getLast?.getD []

def rm : Job UInt8 := do
  let parsed ← Arguments.read { known := [
    { letter := 'f', long := "force" }, { letter := 'r', long := "recursive" }, { letter := 'R' }] }
  let forced := parsed.has 'f'
  let deeply := parsed.has 'r' || parsed.has 'R'
  if parsed.operands.isEmpty && !forced then Job.misuse 1 "missing operand".toList
  eachOperand parsed.operands fun operand => do
    match ← Job.find operand false with
    | .error fault =>
      if forced && (fault = .noEntry || fault = .noDirectory) then return true
      blameFault "cannot remove" operand fault
    | .ok (path, node) =>
      if node = .directory && !deeply then blameFault "cannot remove" operand .isDirectory
      else
        Job.changeTree (withoutBranch · path)
        return true

def makeWay : Nat → Octets → List Octets → Job Bool
  | 0, _, _ => return true
  | _ + 1, _, [] => return true
  | fuel + 1, front, part :: rest => do
    let path := front ++ part
    if part.isEmpty then makeWay fuel (path ++ ['/']) rest
    else
      match ← locate path with
      | .ok (_, some .directory) => makeWay fuel (path ++ ['/']) rest
      | .ok (_, some _) =>
        blameFault "cannot create directory" path (if rest.isEmpty then .alreadyExists else .noDirectory)
      | .ok (place, none) =>
        Job.changeTree (·.put place .directory)
        makeWay fuel (path ++ ['/']) rest
      | .error fault => blameFault "cannot create directory" path fault

def mkdir : Job UInt8 := do
  let parsed ← Arguments.readOperands { known := [{ letter := 'p', long := "parents" }] } 1
  eachOperand parsed.operands fun operand => do
    if parsed.has 'p' && !operand.isEmpty then
      let parts := cutPath operand
      makeWay (parts.length + 1) [] parts
    else
      match ← locate operand false with
      | .error fault => blameFault "cannot create directory" operand fault
      | .ok (_, some _) => blameFault "cannot create directory" operand .alreadyExists
      | .ok (place, none) =>
        Job.changeTree (·.put place .directory)
        return true

def touch : Job UInt8 := do
  let parsed ← Arguments.read { known := [{ letter := 'c', long := "no-create" }] }
  if parsed.operands.isEmpty then Job.misuse 1 "missing file operand".toList
  eachOperand parsed.operands fun operand => do
    match ← locate operand with
    | .error fault => blameFault "cannot touch" operand fault
    | .ok (place, none) =>
      if !parsed.has 'c' then Job.changeTree (·.put place (.document [] false))
      return true
    | .ok _ => return true

def arbitraryName (seed : Nat) : Octets :=
  let letters := "abcdefghijklmnopqrstuvwxyzABCDEFGHIJKLMNOPQRSTUVWXYZ0123456789".toList
  let step : Octets × Nat → Nat → Octets × Nat := fun (name, state) _ =>
    let state := (state * 6364136223846793005 + 1442695040888963407) % 18446744073709551616
    (letters.getD (state / 4294967296 % letters.length) 'a' :: name, state)
  ((List.range 10).foldl step ([], seed)).1

def mktemp : Job UInt8 := do
  let parsed ← Arguments.read { known := [{ letter := 'd', long := "directory" }] }
  let world ← Job.world
  let name := "/tmp/tmp.".toList ++ arbitraryName (world.steps * 1000003 + world.now)
  match ← locate name false with
  | .ok (place, none) =>
    Job.changeTree (·.put place (if parsed.has 'd' then .directory else .document [] false))
    Job.printLine name
    return 0
  | _ => Job.fail 1 ("failed to create ".toList ++ Quotation.quoted name)

/-! ### Copying, moving and linking -/

def withCopy (tree : FileTree) (source target : Path) : FileTree :=
  let branch := tree.entries.filter fun entry => source.isPrefixOf entry.1
  branch.foldl (fun tree (path, node) => tree.put (target ++ path.drop source.length) node) tree

/-- Where sources go: to a path, or into a directory. -/
structure Destination where
  operand : Octets
  isDirectory : Bool

def destination (operands : List Octets) : Job (List Octets × Destination) := do
  match operands.reverse with
  | [] => Job.misuse 1 "missing file operand".toList
  | [operand] =>
    Job.misuse 1 ("missing destination file operand after ".toList ++ Quotation.quoted operand)
  | last :: sources =>
    let isDirectory : Bool := match ← Job.find last with
      | .ok (_, .directory) => true
      | _ => false
    if 1 < sources.length && !isDirectory then
      Job.fail 1 ("target ".toList ++ Quotation.commandText last ++ ": Not a directory".toList)
    return (sources.reverse, { operand := last, isDirectory })

def Destination.path (destination : Destination) (source : Octets) : Octets :=
  if destination.isDirectory then
    let front := if destination.operand.getLast? = some '/' then destination.operand
      else destination.operand ++ ['/']
    front ++ lastPart source
  else destination.operand

/-- Puts something at the destination of each source, complaining about paths that do not lead
anywhere. -/
def transfer (operands : List Octets) (follows : Bool) (purpose : String)
    (put : Path → Node → Path → FileTree → FileTree) : Job UInt8 := do
  let (sources, destination) ← destination operands
  eachOperand sources fun source => do
    let target := destination.path source
    match ← Job.find source follows, ← locate target follows with
    | .error fault, _ => blameFault "cannot stat" source fault
    | _, .error fault => blameFault purpose target fault
    | .ok (from_, node), .ok (to_, _) =>
      if from_ = to_ then
        Job.complain (Quotation.commandText source ++ " and ".toList ++
          Quotation.commandText target ++ " are the same file".toList)
        return false
      Job.changeTree (put from_ node to_)
      return true

def cp : Job UInt8 := do
  let parsed ← Arguments.read { known := [{ letter := 'f', long := "force" }] }
  transfer parsed.operands true "cannot create regular file" fun _ node to_ => (·.put to_ node)

def mv : Job UInt8 := do
  let parsed ← Arguments.read { known := [{ letter := 'f', long := "force" }] }
  transfer parsed.operands false "cannot move" fun from_ _ to_ tree =>
    withoutBranch (withCopy (withoutBranch tree to_) from_ to_) from_

def ln : Job UInt8 := do
  let parsed ← Arguments.read { known := [
    { letter := 's', long := "symbolic" }, { letter := 'f', long := "force" }] }
  let (sources, destination) ← destination parsed.operands
  eachOperand sources fun source => do
    let target := destination.path source
    match ← locate target false with
    | .error fault => blameFault "failed to create symbolic link" target fault
    | .ok (place, found?) =>
      if found?.isSome && !parsed.has 'f' then
        blameFault "failed to create symbolic link" target .alreadyExists
      else
        Job.changeTree (·.put place (.link source))
        return true

end VersionGate.Sandbox.Utility
