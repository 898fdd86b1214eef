import VersionGate.Sandbox.Utility.Arguments

namespace VersionGate.Sandbox.Utility

/-- A path without slashes at its end. -/
def withoutEndSlashes (path : Octets) : Octets :=
  (path.reverse.dropWhile (· = '/')).reverse

def lastComponent (path : Octets) : Octets :=
  let bare := withoutEndSlashes path
  if bare.isEmpty then path.take 1 else ((cutPath bare).getLast?).getD []

/-- A name without an ending, unless it would be nothing. -/
def withoutEnding (ending name : Octets) : Octets :=
  if ending.isSuffixOf name && ending.length < name.length then
    name.take (name.length - ending.length)
  else name

def basename : Job UInt8 := do
  let parsed ← Arguments.readOperands
    { known := [
        { letter := 'a', long := "multiple" }, { letter := 's', long := "suffix", value := .needed }]
      ordered := true }
    1
  let ending? := parsed.value? 's'
  let shown (ending path : Octets) : Octets :=
    let name := lastComponent path
    if name = ['/'] then name else withoutEnding ending name
  if parsed.has 'a' || ending?.isSome then
    Job.print (Lines.toText '\n' (parsed.operands.map (shown (ending?.getD []))))
    return 0
  else
    match parsed.operands with
    | _ :: _ :: operand :: _ => Job.misuse 1 ("extra operand ".toList ++ Quotation.quoted operand)
    | operands =>
      Job.printLine (shown (operands.tail.headD []) (operands.headD []))
      return 0

/-- A path without its last component. -/
def parentPath (path : Octets) : Octets :=
  let bare := withoutEndSlashes path
  if bare.isEmpty then if path.isEmpty then ['.'] else ['/']
  else
    let front := bare.take (bare.length - (lastComponent bare).length)
    if front.isEmpty then ['.']
    else
      let parent := withoutEndSlashes front
      if parent.isEmpty then ['/'] else parent

/-- Prints paths without their last components. -/
def dirname : Job UInt8 := do
  let parsed ← Arguments.readOperands { known := [] } 1
  Job.print (Lines.toText '\n' (parsed.operands.map parentPath))
  return 0

def readlink : Job UInt8 := do
  let parsed ← Arguments.readOperands { known := [] } 1
  let step (code : UInt8) (path : Octets) : Job UInt8 := do
    match ← Job.find path false with
    | .ok (_, .link target) =>
      Job.printLine target
      return code
    | _ => return 1
  parsed.operands.foldlM step 0

end VersionGate.Sandbox.Utility
