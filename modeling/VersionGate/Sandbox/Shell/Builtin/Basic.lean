import VersionGate.Sandbox.Shell.Session

namespace VersionGate.Sandbox.Shell

structure Runner where
  /-- Runs the commands of a text; tells the running command, and whether failures are looked at. -/
  script : Octets → Octets → Act Unit
  become : List Octets → Act Unit
  runJobs : Act Unit
  receive : Act Unit
  /-- Runs the job with a number up to the present time, at which a signal reaches it. -/
  stopJob : Nat → Nat → Act Unit

abbrev Builtin := Runner → List Octets → Act Nat

namespace Builtin

/-- The options at the front of some arguments, with their values, and the other arguments. The letters
of options with a value are followed by a colon. -/
def readOptions (known : List Char) : Nat → List Octets →
    Act (List (Char × Octets) × List Octets)
  | 0, args => return ([], args)
  | _ + 1, [] => return ([], [])
  | fuel + 1, arg :: rest =>
    match arg with
    | ['-', '-'] => return ([], rest)
    | '-' :: letter :: letters => do
      match known.dropWhile (· ≠ letter) with
      | [] => Act.fail ("Illegal option -".toList ++ [letter])
      | _ :: ':' :: _ =>
        match letters, rest with
        | [], [] => Act.fail ("No arg for -".toList ++ letter :: " option".toList)
        | [], value :: rest =>
          let (options, rest) ← readOptions known fuel rest
          return ((letter, value) :: options, rest)
        | _, _ =>
          let (options, rest) ← readOptions known fuel rest
          return ((letter, letters) :: options, rest)
      | _ =>
        let after := if letters.isEmpty then rest else ('-' :: letters) :: rest
        let (options, rest) ← readOptions known fuel after
        return ((letter, []) :: options, rest)
    | _ => return ([], arg :: rest)

def options (known : String) (args : List Octets) : Act (List (Char × Octets) × List Octets) :=
  readOptions known.toList (args.flatten.length + args.length + 1) args

/-- The arguments of a command without options. -/
def plainArguments (args : List Octets) : Act (List Octets) := do
  return (← options "" args).2

/-- A text in quotes, so that a script reads it back. -/
def quoted (text : Octets) : Octets :=
  let rec go : Nat → Octets → Octets
    | 0, _ => []
    | fuel + 1, text =>
      let plain := text.takeWhile (· ≠ '\'')
      let rest := text.drop plain.length
      let quotes := rest.takeWhile (· = '\'')
      let here := '\'' :: plain ++ ['\'']
      if quotes.isEmpty then here
      else
        let after := rest.drop quotes.length
        here ++ '"' :: quotes ++ '"' :: if after.isEmpty then [] else go fuel after
  go (text.length + 1) text

def cutAssignment (arg : Octets) : Octets × Option Octets :=
  let name := arg.takeWhile (· ≠ '=')
  if name.length < arg.length then (name, some (arg.drop (name.length + 1))) else (arg, none)

def checkName (name : Octets) : Act Unit := do
  if !isName name then Act.failAbout name "bad variable name"

end Builtin

end VersionGate.Sandbox.Shell
