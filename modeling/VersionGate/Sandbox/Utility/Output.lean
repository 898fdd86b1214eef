import VersionGate.Sandbox.Format.Printf
import VersionGate.Sandbox.Utility.Arguments

namespace VersionGate.Sandbox.Utility

def isEchoFlags (arg : Octets) : Bool :=
  match arg with
  | '-' :: letter :: letters => (letter :: letters).all (· ∈ ['n', 'e', 'E'])
  | _ => false

/-- Prints its arguments in a line. Flags come first: without line feed, with escapes, without
escapes. -/
def echo : Job UInt8 := do
  let args := (← Job.call).args
  if args = ["--version".toList] then
    Arguments.showVersion Arguments.coreutils Arguments.coreutilsVersion
  if args = ["--help".toList] then Job.exit 0
  let flags := (args.takeWhile isEchoFlags).flatMap List.tail
  let text := [' '].intercalate (args.dropWhile isEchoFlags)
  let escapes := (flags.filter (· ≠ 'n')).getLast? = some 'e'
  let (text, finish) :=
    if escapes then Escape.expand .program .echoed text else (text, .complete)
  Job.print (if finish = .stopped || 'n' ∈ flags then text else text ++ ['\n'])
  return 0

def printf : Job UInt8 := do
  let args := (← Job.call).args
  if args = ["--version".toList] then
    Arguments.showVersion Arguments.coreutils Arguments.coreutilsVersion
  if args = ["--help".toList] then Job.exit 0
  match if args.head? = some ['-', '-'] then args.tail else args with
  | [] => Job.misuse 1 "missing operand".toList
  | format :: args =>
    let outcome := Printf.run .program format args
    outcome.complaints.forM Job.complain
    Job.print outcome.output
    return outcome.status.toUInt8

/-- Succeeds or fails, whatever the arguments are. -/
def constant (code : UInt8) : Job UInt8 := do
  if (← Job.call).args = ["--version".toList] then
    Arguments.showVersion Arguments.coreutils Arguments.coreutilsVersion
  return if (← Job.call).args = ["--help".toList] then 0 else code

def cat : Job UInt8 := do
  let parsed ← Arguments.read { known := [{ letter := 'u' }] }
  let copy (code : UInt8) (path : Octets) : Job UInt8 := do
    match ← Job.takeFile path with
    | .error fault =>
      Job.complain (Quotation.subject path ++ ": ".toList ++ Job.faultText fault)
      return 1
    | .ok text =>
      Job.print text
      match ← Job.flush with
      | none => return code
      | some fault => Job.fail 1 ("write error: ".toList ++ Job.faultText fault)
  if ((← Job.call).descriptors.lookup 1).isNone then
    Job.fail 1 ("standard output: ".toList ++ Job.faultText .badDescriptor)
  (if parsed.operands.isEmpty then [['-']] else parsed.operands).foldlM copy 0

end VersionGate.Sandbox.Utility
