import VersionGate.Text.Utf8

/-!
Bytes as characters, and the output of programs.

Inside the sandbox a byte is held as the character with the same number, so that byte strings can be
written and matched like text. Lines are the stretches of a byte string that end with a mark, which
most often is a line feed.
-/

namespace VersionGate.Sandbox

abbrev Octets := List Char

namespace Octets

def ofText (text : String) : Octets :=
  (Text.Utf8.encode text.toList).map fun byte => Char.ofNat byte.toNat

def toBytes (octets : Octets) : List UInt8 :=
  octets.map (·.toNat.toUInt8)

def toText (octets : Octets) : String :=
  String.ofList (Text.Utf8.decode octets.toBytes)

def ofNat (n : Nat) : Octets :=
  (toString n).toList

def ofInt (n : Int) : Octets :=
  (toString n).toList

/-- The order of byte strings. The first byte that differs decides, and the end comes before every
byte. -/
def order : Octets → Octets → Ordering
  | [], [] => .eq
  | [], _ :: _ => .lt
  | _ :: _, [] => .gt
  | c :: rest, d :: others => if c = d then order rest others else if c < d then .lt else .gt

def inOrder (first second : Octets) : Bool :=
  order first second ≠ .gt

end Octets

inductive Stream where
  | out
  | err
deriving DecidableEq

inductive End where
  | exited (code : UInt8)
  | killed (signal : Nat)
deriving DecidableEq

structure Completed where
  written : List (Stream × Octets)
  ending : End

namespace Completed

def on (completed : Completed) (stream : Stream) : Octets :=
  completed.written.flatMap fun (written, octets) => if written = stream then octets else []

end Completed

end VersionGate.Sandbox

namespace VersionGate.Sandbox.Lines

/-- The lines of a text with their marks; the last one may lack it. -/
def withMarks (mark : Char) (text : Octets) : List Octets :=
  let (line, later) : Octets × List Octets := text.foldr
    (fun c (line, later) =>
      if c = mark then ([c], if line.isEmpty then later else line :: later) else (c :: line, later))
    ([], [])
  if line.isEmpty then later else line :: later

/-- The lines of a text without their marks. -/
def ofText (mark : Char) (text : Octets) : List Octets :=
  (withMarks mark text).map fun line => if line.getLast? = some mark then line.dropLast else line

def toText (mark : Char) (lines : List Octets) : Octets :=
  lines.flatMap (· ++ [mark])

end VersionGate.Sandbox.Lines
