import VersionGate.Sandbox.Number

namespace VersionGate.Sandbox

/-- Whether a utility is a program of its own or built into a shell; they differ in details. -/
inductive Home where
  | program
  | shell
deriving DecidableEq

end VersionGate.Sandbox

namespace VersionGate.Sandbox.Escape

inductive Place where
  | format
  | argument
  | echoed
deriving DecidableEq

def letter? : Char → Option Char
  | '\\' => some '\\'
  | 'a' => some '\x07'
  | 'b' => some '\x08'
  | 'e' => some '\x1b'
  | 'f' => some '\x0c'
  | 'n' => some '\n'
  | 'r' => some '\r'
  | 't' => some '\t'
  | 'v' => some '\x0b'
  | _ => none

inductive Read where
  | octets (octets : Octets) (rest : List Char)
  | stop
  | incomplete

def byteOf (base : Nat) (digits : List Char) : Char :=
  Char.ofNat (Number.ofDigits base digits % 256)

/-- Reads an escape that only programs know. -/
def readExtended? (place : Place) (c : Char) (rest : List Char) : Option Read :=
  let digits := (rest.take 2).takeWhile (Number.isDigitOf 16)
  match c with
  | 'x' =>
    if !digits.isEmpty then some (.octets [byteOf 16 digits] (rest.drop digits.length))
    else if place = .echoed then none
    else some .incomplete
  | '"' => if place = .echoed then none else some (.octets [c] rest)
  | 'c' => some .stop
  | _ => none

/-- Reads an escape. A backslash that begins none stands for itself. -/
def read (home : Home) (place : Place) : List Char → Read
  | [] => .octets ['\\'] []
  | c :: rest =>
    let special := match home with
      | .program => readExtended? place c rest
      | .shell => none
    match letter? c, special with
    | some value, _ => .octets [value] rest
    | none, some found => found
    | none, none =>
      if c = 'c' && home = .shell && place ≠ .format then .stop
      else
        let length := if place ≠ .format && c = '0' then 4 else 3
        let digits := ((c :: rest).take length).takeWhile (Number.isDigitOf 8)
        if digits.isEmpty then .octets ['\\', c] rest
        else .octets [byteOf 8 digits] ((c :: rest).drop digits.length)

inductive Finish where
  | complete
  | stopped
  | incomplete
deriving DecidableEq

def expandFrom (home : Home) (place : Place) : Nat → List Char → Octets × Finish
  | 0, _ => ([], .complete)
  | _ + 1, [] => ([], .complete)
  | fuel + 1, '\\' :: text =>
    match read home place text with
    | .octets octets rest =>
      let (later, finish) := expandFrom home place fuel rest
      (octets ++ later, finish)
    | .stop => ([], .stopped)
    | .incomplete => ([], .incomplete)
  | fuel + 1, c :: text =>
    let (later, finish) := expandFrom home place fuel text
    (c :: later, finish)

def expand (home : Home) (place : Place) (text : List Char) : Octets × Finish :=
  expandFrom home place (text.length + 1) text

end VersionGate.Sandbox.Escape
