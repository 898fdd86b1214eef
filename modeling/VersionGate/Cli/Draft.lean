import VersionGate.Cli.UsageError
import VersionGate.Cli.Word

/-!
Reading a command line from left to right.

A draft holds what has been read so far. The value in a word of its own is examined only when the
next option or positional is recognized, or at the end; an unknown option comes before that and
leaves it unexamined. The environment is asked last, and only for options that are not given.
-/

namespace VersionGate.Cli

/-- An environment: the values of the variables that are set. -/
abbrev Environment := String → Option String

inductive Halt where
  | usage (error : UsageError)
  | help (detailed : Bool)
  | version
deriving DecidableEq

/-- A setting whose value is due, or is there and not yet examined. -/
structure Pending where
  setting : Setting
  value : Option String
deriving DecidableEq

structure Draft where
  toolchain : Option String := none
  query : Option String := none
  compare : Option Comparison := none
  completions : Option Shell := none
  json : Bool := false
  verbose : Bool := false
  quiet : Bool := false
  noColor : Bool := false
  debug : Bool := false
  positionals : List String := []
  pending : Option Pending := none
deriving DecidableEq

namespace Draft

def isOn (draft : Draft) : Switch → Bool
  | .json => draft.json
  | .verbose => draft.verbose
  | .quiet => draft.quiet
  | .noColor => draft.noColor
  | .debug => draft.debug

def turnOn (draft : Draft) : Switch → Draft
  | .json => { draft with json := true }
  | .verbose => { draft with verbose := true }
  | .quiet => { draft with quiet := true }
  | .noColor => { draft with noColor := true }
  | .debug => { draft with debug := true }

def isSet (draft : Draft) : Setting → Bool
  | .toolchain => draft.toolchain.isSome
  | .query => draft.query.isSome
  | .compare => draft.compare.isSome
  | .completions => draft.completions.isSome

def assign (draft : Draft) (setting : Setting) (value : String) : Except UsageError Draft :=
  match setting with
  | .toolchain => .ok { draft with toolchain := some value }
  | .query => .ok { draft with query := some value }
  | .compare =>
    match Comparison.ofName? value with
    | some comparison => .ok { draft with compare := some comparison }
    | none => .error (.ofValue value setting)
  | .completions =>
    match Shell.ofName? value with
    | some shell => .ok { draft with completions := some shell }
    | none => .error (.ofValue value setting)

/-- Examines a value: its setting must not be given twice. -/
def accept (draft : Draft) (setting : Setting) (value : String) : Except UsageError Draft :=
  if draft.isSet setting then .error (.repeated (.setting setting)) else draft.assign setting value

def settle (draft : Draft) : Except UsageError Draft :=
  match draft.pending with
  | none => .ok draft
  | some ⟨setting, none⟩ => .error (.valueRequired setting)
  | some ⟨setting, some value⟩ => { draft with pending := none }.accept setting value

def readSwitch (draft : Draft) (switch : Switch) : Except UsageError Draft := do
  let draft ← draft.settle
  if draft.isOn switch then .error (.repeated (.switch switch)) else return draft.turnOn switch

def readAttached (draft : Draft) (setting : Setting) (value : String) :
    Except UsageError Draft := do
  (← draft.settle).accept setting value

def readAwaiting (draft : Draft) (setting : Setting) : Except UsageError Draft := do
  return { ← draft.settle with pending := some ⟨setting, none⟩ }

def readPositional (draft : Draft) (text : String) : Except UsageError Draft := do
  let draft ← draft.settle
  return { draft with positionals := draft.positionals ++ [text] }

def inquire (draft : Draft) (inquiry : Inquiry) (detailed : Bool) : Halt :=
  match draft.settle, inquiry with
  | .error error, _ => .usage error
  | .ok _, .help => .help detailed
  | .ok _, .version => .version

def orHalt {α : Type} (result : Except UsageError α) : Except Halt α :=
  result.mapError .usage

/-- Reads the letters after a dash. The rest of the letters after a setting is its value, less an
equals sign at the start. -/
def readLetters (draft : Draft) : List Char → Except Halt Draft
  | [] => .ok draft
  | letter :: rest =>
    match Opt.ofShort? letter with
    | none => .error (.usage (.unknownOption (String.ofList ['-', letter])))
    | some (.inquiry inquiry) => .error (draft.inquire inquiry false)
    | some (.switch switch) =>
      match draft.readSwitch switch with
      | .ok draft => draft.readLetters rest
      | .error error => .error (.usage error)
    | some (.setting setting) =>
      match rest with
      | [] => orHalt (draft.readAwaiting setting)
      | '=' :: value => orHalt (draft.readAttached setting (String.ofList value))
      | value => orHalt (draft.readAttached setting (String.ofList value))

def readLong (draft : Draft) (name : String) (attached : Option String) : Except Halt Draft :=
  match Opt.ofLong? name, attached with
  | none, _ => .error (.usage (.unknownOption ("--" ++ name)))
  | some (.setting setting), some value => orHalt (draft.readAttached setting value)
  | some (.setting setting), none => orHalt (draft.readAwaiting setting)
  | some opt, some value => .error (.usage (.unexpectedValue value opt))
  | some (.switch switch), none => orHalt (draft.readSwitch switch)
  | some (.inquiry inquiry), none => .error (draft.inquire inquiry true)

/-- Reads a plain word: the value that is due, or else a positional. -/
def readPlain (draft : Draft) (text : String) : Except UsageError Draft :=
  match draft.pending with
  | some ⟨setting, none⟩ => .ok { draft with pending := some ⟨setting, some text⟩ }
  | _ => draft.readPositional text

def readPositionals (draft : Draft) : List String → Except UsageError Draft
  | [] => draft.settle
  | text :: rest => do (← draft.readPositional text).readPositionals rest

def read (draft : Draft) : List String → Except Halt Draft
  | [] => orHalt draft.settle
  | text :: rest =>
    match Word.ofString text with
    | .terminator => orHalt (draft.readPositionals rest)
    | .long name attached => do (← draft.readLong name attached).read rest
    | .cluster letters => do (← draft.readLetters letters).read rest
    | .plain text => do (← orHalt (draft.readPlain text)).read rest

def fill (draft : Draft) (environment : Environment) (setting : Setting) :
    Except UsageError Draft :=
  match draft.isSet setting, setting.envName?.bind environment with
  | false, some value => draft.assign setting value
  | _, _ => .ok draft

def invocation (draft : Draft) : Invocation where
  check := {
    minVersion := draft.positionals.head?
    extra := draft.positionals.tail
    toolchain := draft.toolchain.getD defaultToolchain
    query := draft.query
    compare := draft.compare.getD default
    json := draft.json }
  verbose := draft.verbose
  quiet := draft.quiet
  noColor := draft.noColor
  debug := draft.debug
  completions := draft.completions

end Draft

/-- Reads a command line without the name of the program. -/
def Invocation.parse (environment : Environment) (words : List String) :
    Except Halt Invocation := do
  let draft ← ({} : Draft).read words
  let draft ← Draft.orHalt (draft.fill environment .toolchain)
  let draft ← Draft.orHalt (draft.fill environment .query)
  let draft ← Draft.orHalt (draft.fill environment .compare)
  return draft.invocation

end VersionGate.Cli
