import VersionGate.Sandbox.Call
import VersionGate.Sandbox.Shell.Field
import VersionGate.Sandbox.Shell.Session

namespace VersionGate.Sandbox.Shell

inductive Input where
  | text (text : Octets)
  | file (path : Octets)
  | standard
deriving DecidableEq

structure Invocation where
  options : List Char := []
  input : Input
  name : Octets
  arguments : List Octets := []

namespace Invocation

structure Draft where
  options : List Char := []
  takesText : Bool := false
  rest : List Octets := []

def Draft.switch (draft : Draft) (isOn : Bool) (letter : Char) : Draft :=
  let others := draft.options.filter (· ≠ letter)
  { draft with options := if isOn then letter :: others else others }

/-- Takes the letters of one argument; what is wrong with them is told. -/
def readLetters (isOn : Bool) (draft : Draft) : List Char → Except Octets Draft
  | [] => .ok draft
  | letter :: letters =>
    if letter = 'c' then readLetters isOn { draft with takesText := true } letters
    else if letter = 'l' then readLetters isOn draft letters
    else if letter = 'o' then
      match draft.rest with
      | [] => readLetters isOn draft letters
      | name :: rest =>
        match Options.letterOf? name with
        | some option => readLetters isOn ({ draft with rest }.switch isOn option) letters
        | none => .error ("Illegal option ".toList ++ (if isOn then '-' else '+') :: "o ".toList ++ name)
    else if (Options.all.lookup letter).isSome && ' ' < letter then
      readLetters isOn (draft.switch isOn letter) letters
    else .error ("Illegal option ".toList ++ (if isOn then '-' else '+') :: [letter])

def readOptions : Nat → Draft → Except Octets Draft
  | 0, draft => .ok draft
  | fuel + 1, draft =>
    match draft.rest with
    | ['-'] :: rest => .ok { draft with rest }
    | ['-', '-'] :: rest => .ok { draft with rest }
    | ('-' :: letters) :: rest => do
      readOptions fuel (← readLetters true { draft with rest } letters)
    | ('+' :: letters) :: rest => do
      readOptions fuel (← readLetters false { draft with rest } letters)
    | _ => .ok draft

/-- Reads a call of a shell; what is wrong with it is told. -/
def read (call : Call) : Except Octets Invocation := do
  let draft ← readOptions (call.args.length + 1) { rest := call.args }
  let options := draft.options
  match draft.takesText, draft.rest with
  | true, [] => throw "-c requires an argument".toList
  | true, text :: name :: arguments => return { options, input := .text text, name, arguments }
  | true, [text] => return { options, input := .text text, name := call.name }
  | false, [] => return { options := 's' :: options, input := .standard, name := call.name }
  | false, path :: arguments =>
    if 's' ∈ options then
      return { options, input := .standard, name := call.name, arguments := path :: arguments }
    else return { options, input := .file path, name := path, arguments }

end Invocation

namespace State

/-- The directories in which a shell looks for programs unless it is told others. -/
def defaultSearchPath : Octets :=
  "/usr/local/sbin:/usr/local/bin:/usr/sbin:/usr/bin:/sbin:/bin".toList

def initial (dialect : Dialect) (call : Call) (invocation : Invocation) (number : Nat) : State :=
  let given := (call.environment.filter fun (name, _) => isName name).map fun (name, value) =>
    (name, ({ value := some value, exported := true } : Binding))
  let unmarked (name : String) (value : Octets) : Octets × Binding :=
    (name.toList, { value := some value })
  let path :=
    if (given.lookup "PATH".toList).isSome then [] else [unmarked "PATH" defaultSearchPath]
  let own := [unmarked "IFS" Field.defaultSeparators, unmarked "OPTIND" ['1'],
    unmarked "PS1" ['#', ' '], unmarked "PS2" ['>', ' '], unmarked "PS4" ['+', ' '],
    unmarked "PPID" (Octets.ofNat (number - 1)),
    ("PWD".toList, { value := some (Path.text call.directory), exported := true })]
  let others := given.filter fun (name, _) => (own.lookup name).isNone
  { name := invocation.name
    dialect
    arguments := invocation.arguments
    bindings := own ++ path ++ others
    options := invocation.options
    descriptors := call.descriptors
    directory := call.directory
    way := call.directory
    ignored := call.ignored
    number }

end State

end VersionGate.Sandbox.Shell
