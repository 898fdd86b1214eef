import VersionGate.Text.Utf8

/-!
Removing control sequences from a text, so that only what a terminal would show as text remains.

A sequence begins with an escape character. What its second character is decides where it ends: most
sequences end there, one opened by a bracket ends at the next letter or mark above `?`, and a control
string runs until it is terminated. The terminator of a control string is a single byte, and it is
found inside the wider characters too.
-/

namespace VersionGate.Text.ControlSequence

inductive State where
  | ground
  | escape
  | intermediate
  | parameters
  | device
  | deviceParameters
  | deviceIntermediate
  | string
  | command
deriving DecidableEq

def isTextControl (c : Char) : Bool :=
  c = '\t' || c = '\n' || c = '\x0c' || c = '\r'

def terminator : UInt8 := 0x9C

def terminates (c : Char) : Bool :=
  terminator ∈ Utf8.encodeChar c

def opened (c : Char) : State :=
  if c = '[' then .parameters
  else if c = ']' then .command
  else if c = 'P' then .device
  else if c = 'X' || c = '^' || c = '_' then .string
  else if c < '0' then .intermediate
  else .ground

/-- The state after a visible ASCII character at the start of a device string, with the parameters
that may still come. -/
def inDevice (mayBegin : Char → Bool) (c : Char) : State :=
  if c < '0' then .deviceIntermediate
  else if mayBegin c then .deviceParameters
  else .string

def continued (state : State) (c : Char) : State :=
  match state with
  | .escape => opened c
  | .intermediate => if c < '0' then .intermediate else .ground
  | .parameters => if c < '@' then .parameters else .ground
  | .device => inDevice (fun c => c < '@' && c ≠ ':') c
  | .deviceParameters => inDevice (fun c => c.isDigit || c = ';') c
  | .deviceIntermediate => if c < '0' then .deviceIntermediate else .string
  | state => state

inductive Interruption where
  | ends
  /-- The sequence goes on after the text that follows the blanks, at the next control character. -/
  | resumes
deriving DecidableEq

/-- A reader of a text: where it stands, and whether it shows what follows blanks inside a sequence. -/
structure Reader where
  state : State := .ground
  isInterrupted : Bool := false
deriving DecidableEq

def isText (c : Char) : Bool :=
  isTextControl c || (' ' ≤ c && c ≠ '\x7f')

/-- The state after a character inside a sequence or outside any, and whether that character is
text. -/
def step (interruption : Interruption) (state : State) (c : Char) : Reader × Bool :=
  let isVisible : Bool := ' ' ≤ c && c < '\x7f'
  if c = '\x1b' then ({ state := .escape }, false)
  else if c = '\x18' || c = '\x1a' then ({}, false)
  else
    match state with
    | .ground => ({}, isText c)
    | .string => ({ state := if terminates c then .ground else .string }, false)
    | .command => ({ state := if c = '\x07' then .ground else .command }, false)
    | .escape | .intermediate | .parameters =>
      if isTextControl c then
        (if interruption = .ends then {} else { state, isInterrupted := true }, true)
      else ({ state := if isVisible then continued state c else state }, false)
    | _ => ({ state := if isVisible then continued state c else state }, false)

/-- The reader after a character, and whether that character is text. A wider character among what is
shown inside a sequence ends the sequence. -/
def Reader.advance (interruption : Interruption) (reader : Reader) (c : Char) : Reader × Bool :=
  if reader.isInterrupted && isText c then (if c < '\x80' then reader else {}, true)
  else step interruption reader.state c

def stripFrom (interruption : Interruption) : Reader → List Char → List Char
  | _, [] => []
  | reader, c :: rest =>
    let (after, isText) := reader.advance interruption c
    if isText then c :: stripFrom interruption after rest else stripFrom interruption after rest

end VersionGate.Text.ControlSequence

namespace VersionGate.Text

/-- A string without control sequences and control characters; blanks stay. -/
def stripControls (interruption : ControlSequence.Interruption) (text : String) : String :=
  String.ofList (ControlSequence.stripFrom interruption {} text.toList)

end VersionGate.Text
