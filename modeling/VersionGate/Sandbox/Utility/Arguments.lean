import VersionGate.Sandbox.Format.Quotation
import VersionGate.Sandbox.Utility.Job

/-!
The options of utilities.

Options have letters and long names. Letters may share a word, and a value follows its option in the
same word or in the next one. Operands may stand before options.
-/

namespace VersionGate.Sandbox.Arguments

inductive Value where
  | none
  | needed
  | possible
deriving DecidableEq

structure Known where
  letter : Char
  long : String := ""
  value : Value := .none

def coreutils : String := "GNU coreutils"

def coreutilsVersion : String := "9.7"

structure Grammar where
  known : List Known
  ordered : Bool := false
  misuse : UInt8 := 1
  usage : Option String := none
  namesHints : Bool := false
  package : String := coreutils
  version : String := coreutilsVersion

structure Parsed where
  options : List (Char × Octets) := []
  operands : List Octets := []

def Grammar.refuse {α : Type} (grammar : Grammar) (text : Octets) : Job α := do
  Job.complain text
  if let some usage := grammar.usage then
    Job.sayError ("Usage: ".toList ++ (← Job.call).name ++ ' ' :: usage.toList ++ ['\n'])
  if grammar.namesHints then Job.sayError ((← Job.call).name ++ ": ".toList)
  Job.sayHint
  Job.exit grammar.misuse

namespace Parsed

def has (parsed : Parsed) (letter : Char) : Bool :=
  parsed.options.any (·.1 = letter)

def value? (parsed : Parsed) (letter : Char) : Option Octets :=
  (parsed.options.reverse.find? (·.1 = letter)).map (·.2)

def values (parsed : Parsed) (letter : Char) : List Octets :=
  (parsed.options.filter (·.1 = letter)).map (·.2)

def last? (parsed : Parsed) (letters : List Char) : Option Char :=
  (parsed.options.reverse.find? (·.1 ∈ letters)).map (·.1)

end Parsed

def helpLetter : Char := '\x01'

def versionLetter : Char := '\x02'

def requests : List Known :=
  [{ letter := helpLetter, long := "help" }, { letter := versionLetter, long := "version" }]

def readLetters (grammar : Grammar) : List Char → List Octets →
    Job (List (Char × Octets) × List Octets)
  | [], rest => return ([], rest)
  | letter :: letters, rest => do
    match grammar.known.find? (·.letter = letter) with
    | none => grammar.refuse ("invalid option -- '".toList ++ [letter, '\''])
    | some known =>
      match known.value with
      | .none =>
        let (options, rest) ← readLetters grammar letters rest
        return ((letter, []) :: options, rest)
      | .possible => return ([(letter, letters)], rest)
      | .needed =>
        if !letters.isEmpty then return ([(letter, letters)], rest)
        else
          match rest with
          | value :: rest => return ([(letter, value)], rest)
          | [] =>
            grammar.refuse
              ("option requires an argument -- '".toList ++ [letter, '\''])

/-- Reads a long name, which may be cut short, with a value in the same word or in the next one. -/
def readLong (grammar : Grammar) (text : Octets) (rest : List Octets) :
    Job (List (Char × Octets) × List Octets) := do
  let name := text.takeWhile (· ≠ '=')
  let value? := if name.length < text.length then some (text.drop (name.length + 1)) else none
  let all := grammar.known ++ requests
  let shown (known : Known) : Octets := "'--".toList ++ known.long.toList ++ ['\'']
  let candidates := all.filter fun known => known.long ≠ "" && name.isPrefixOf known.long.toList
  let chosen := match all.find? fun known => known.long ≠ "" && known.long.toList = name with
    | some known => [known]
    | none => candidates
  match chosen with
  | [] => grammar.refuse ("unrecognized option '--".toList ++ text ++ ['\''])
  | [known] =>
    match known.value, value?, rest with
    | .none, some _, _ =>
      grammar.refuse
        ("option ".toList ++ shown known ++ " doesn't allow an argument".toList)
    | .none, none, _ => return ([(known.letter, [])], rest)
    | .possible, _, _ => return ([(known.letter, value?.getD [])], rest)
    | .needed, some value, _ => return ([(known.letter, value)], rest)
    | .needed, none, value :: rest => return ([(known.letter, value)], rest)
    | .needed, none, [] =>
      grammar.refuse ("option ".toList ++ shown known ++ " requires an argument".toList)
  | _ =>
    let list := candidates.flatMap fun known => ' ' :: shown known
    grammar.refuse
      ("option '--".toList ++ text ++ "' is ambiguous; possibilities:".toList ++ list)

def readFrom (grammar : Grammar) : Nat → List Octets → Job Parsed
  | 0, words => return { operands := words }
  | _ + 1, [] => return {}
  | fuel + 1, word :: rest => do
    match word with
    | ['-', '-'] => return { operands := rest }
    | '-' :: '-' :: text =>
      let (options, rest) ← readLong grammar text rest
      let later ← readFrom grammar fuel rest
      return { later with options := options ++ later.options }
    | '-' :: letter :: letters =>
      let (options, rest) ← readLetters grammar (letter :: letters) rest
      let later ← readFrom grammar fuel rest
      return { later with options := options ++ later.options }
    | _ =>
      if grammar.ordered then return { operands := word :: rest }
      else
        let later ← readFrom grammar fuel rest
        return { later with operands := word :: later.operands }

def showVersion (package version : String) : Job Unit := do
  let name := (← Job.call).name
  let base := ((cutPath name).getLast?).getD name
  Job.printLine (base ++ " (".toList ++ package.toList ++ ") ".toList ++ version.toList)
  Job.exit 0

/-- Reads some arguments; requests for help and for the version are met at once. -/
def readWords (grammar : Grammar) (args : List Octets) : Job Parsed := do
  let parsed ← readFrom grammar (args.length + 1) args
  match parsed.last? [helpLetter, versionLetter] with
  | none => return parsed
  | some letter =>
    if letter = versionLetter then showVersion grammar.package grammar.version else Job.exit 0
    return parsed

def read (grammar : Grammar) : Job Parsed := do
  readWords grammar (← Job.call).args

def readOperands (grammar : Grammar) (needed : Nat) : Job Parsed := do
  let parsed ← read grammar
  if parsed.operands.isEmpty && 0 < needed then grammar.refuse "missing operand".toList
  if parsed.operands.length < needed then
    let last := parsed.operands.getLast?.getD []
    grammar.refuse ("missing operand after ".toList ++ Quotation.quoted last)
  return parsed

end VersionGate.Sandbox.Arguments
