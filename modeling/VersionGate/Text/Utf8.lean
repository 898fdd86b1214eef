/-!
UTF-8, written strictly and read leniently.

The reader is a machine that takes one byte at a time. Where the bytes cannot go on to a character,
the part read so far becomes one replacement character and reading starts again at the byte that
did not fit, so a byte that begins a character is never swallowed by a broken one before it.
-/

namespace VersionGate.Text.Utf8

def encodeChar (c : Char) : List UInt8 :=
  let code := c.toNat
  if code < 0x80 then [code.toUInt8]
  else if code < 0x800 then [(0xC0 + code / 0x40).toUInt8, (0x80 + code % 0x40).toUInt8]
  else if code < 0x10000 then
    [(0xE0 + code / 0x1000).toUInt8, (0x80 + code / 0x40 % 0x40).toUInt8,
      (0x80 + code % 0x40).toUInt8]
  else
    [(0xF0 + code / 0x40000).toUInt8, (0x80 + code / 0x1000 % 0x40).toUInt8,
      (0x80 + code / 0x40 % 0x40).toUInt8, (0x80 + code % 0x40).toUInt8]

def encode (text : List Char) : List UInt8 :=
  text.flatMap encodeChar

/-- The state of the reader: between characters, or inside one that needs `missing` further bytes,
of which the next lies between `low` and `high`; `code` is what the bytes so far contribute. -/
inductive Reader where
  | start
  | inside (missing : Nat) (low high : UInt8) (code : Nat)

def replacement : Char := '\ufffd'

/-- Reads the first byte of a character. The ranges leave out the over-long forms, the surrogates
and the code points after the last one. -/
def Reader.begin (byte : UInt8) : List Char × Reader :=
  if byte < 0x80 then ([Char.ofNat byte.toNat], .start)
  else if byte < 0xC2 then ([replacement], .start)
  else if byte < 0xE0 then ([], .inside 1 0x80 0xBF (byte.toNat - 0xC0))
  else if byte = 0xE0 then ([], .inside 2 0xA0 0xBF 0)
  else if byte = 0xED then ([], .inside 2 0x80 0x9F 0xD)
  else if byte < 0xF0 then ([], .inside 2 0x80 0xBF (byte.toNat - 0xE0))
  else if byte = 0xF0 then ([], .inside 3 0x90 0xBF 0)
  else if byte < 0xF4 then ([], .inside 3 0x80 0xBF (byte.toNat - 0xF0))
  else if byte = 0xF4 then ([], .inside 3 0x80 0x8F 4)
  else ([replacement], .start)

/-- Reads one byte: the characters it completes and the state after it. -/
def Reader.step : Reader → UInt8 → List Char × Reader
  | .start, byte => begin byte
  | .inside missing low high code, byte =>
    if low ≤ byte ∧ byte ≤ high then
      let code := code * 0x40 + (byte.toNat - 0x80)
      if missing ≤ 1 then ([Char.ofNat code], .start) else ([], .inside (missing - 1) 0x80 0xBF code)
    else
      let (chars, next) := begin byte
      (replacement :: chars, next)

def Reader.finish : Reader → List Char
  | .start => []
  | .inside .. => [replacement]

def Reader.decode : Reader → List UInt8 → List Char
  | reader, [] => reader.finish
  | reader, byte :: rest =>
    let (chars, next) := reader.step byte
    chars ++ next.decode rest

/-- The text of any bytes, with a replacement character for each part that is no character. -/
def decode (bytes : List UInt8) : List Char :=
  Reader.start.decode bytes

end VersionGate.Text.Utf8
