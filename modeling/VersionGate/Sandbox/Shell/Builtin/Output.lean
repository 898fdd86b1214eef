import VersionGate.Sandbox.Condition.Builtin
import VersionGate.Sandbox.Format.Printf
import VersionGate.Sandbox.Shell.Builtin.Basic

namespace VersionGate.Sandbox.Shell.Builtin

/-- The texts that are printed, each with its escapes replaced, up to one that stops the output. -/
def echoed : List Octets → Octets × Bool
  | [] => ([], false)
  | text :: rest =>
    match Escape.expand .shell .argument text with
    | (octets, .complete) =>
      let (later, stopped) := echoed rest
      (octets ++ (if rest.isEmpty then later else ' ' :: later), stopped)
    | (octets, _) => (octets, true)

/-- Prints its arguments in a line; the first one may ask for no line feed. -/
def echo : Builtin := fun _ args => do
  let isOpen := args.head? = some ['-', 'n']
  let (octets, stopped) := echoed (if isOpen then args.tail else args)
  Act.print (if stopped || isOpen then octets else octets ++ ['\n'])
  return 0

def printf : Builtin := fun _ args => do
  match ← plainArguments args with
  | [] => Act.fail "usage: printf format [arg ...]".toList
  | format :: args =>
    let outcome := Printf.run .shell format args
    Act.print outcome.output
    outcome.complaints.forM Act.complain
    if outcome.failed then
      Act.setStatus 2
      throw .failed
    return outcome.status

def decideCondition (words : List Octets) : Act Nat := do
  let shell ← Act.shell
  let sight := Condition.Sight.ofWorld (← Act.world) shell.descriptors shell.directory
  match Condition.Builtin.evaluate sight words with
  | .ok truth => return if truth then 0 else 1
  | .error text => Act.fail text

def test : Builtin := fun _ args => decideCondition args

def bracket : Builtin := fun _ args => do
  if args.getLast? = some [']'] then decideCondition args.dropLast
  else Act.fail "missing ]".toList

def succeed : Builtin := fun _ _ => return 0

def refuse : Builtin := fun _ _ => return 1

end VersionGate.Sandbox.Shell.Builtin
