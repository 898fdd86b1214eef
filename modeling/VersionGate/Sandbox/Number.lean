import VersionGate.Sandbox.Octets

namespace VersionGate.Sandbox.Number

def natural (digits : List Char) : Nat :=
  digits.foldl (fun value c => 10 * value + (c.toNat - '0'.toNat)) 0

def hexValue? (c : Char) : Option Nat :=
  if '0' ≤ c && c ≤ '9' then some (c.toNat - '0'.toNat)
  else if 'a' ≤ c && c ≤ 'f' then some (c.toNat - 'a'.toNat + 10)
  else if 'A' ≤ c && c ≤ 'F' then some (c.toNat - 'A'.toNat + 10)
  else none

def isDigitOf (base : Nat) (c : Char) : Bool :=
  (hexValue? c).any (· < base)

def ofDigits (base : Nat) (digits : List Char) : Nat :=
  digits.foldl (fun value c => base * value + (hexValue? c).getD 0) 0

def isBlank (c : Char) : Bool :=
  c = ' ' || ('\t' ≤ c && c ≤ '\r')

/-- What is read at the start of a text: the number, whether there are any digits, and what comes
after them. -/
structure Reading where
  value : Int
  found : Bool
  rest : List Char

inductive Numerals where
  | decimal
  /-- Hexadecimal after a zero and the letter x, octal after another zero, decimal otherwise. -/
  | marked
deriving DecidableEq

def read (form : Numerals) (text : List Char) : Reading :=
  let text := text.dropWhile isBlank
  let (negative, text) := match text with
    | '-' :: rest => (true, rest)
    | '+' :: rest => (false, rest)
    | _ => (false, text)
  let (base, text) := match form, text with
    | .marked, '0' :: mark :: c :: rest =>
      if (mark = 'x' || mark = 'X') && isDigitOf 16 c then (16, c :: rest) else (8, text)
    | .marked, '0' :: _ => (8, text)
    | _, _ => (10, text)
  let digits := text.takeWhile (isDigitOf base)
  let value : Int := ofDigits base digits
  { value := if negative then -value else value
    found := !digits.isEmpty
    rest := text.drop digits.length }

def greatest : Int := 9223372036854775807

def least : Int := -9223372036854775808

def saturate (value : Int) : Int :=
  max least (min greatest value)

/-- The number of 64 bits with a sign that differs by a multiple of two to the power of 64. -/
def wrap (value : Int) : Int :=
  Int.bmod value 18446744073709551616

/-- The number that a whole text writes, blanks around it apart, if it has 64 bits. -/
def integer? (form : Numerals) (text : List Char) : Option Int :=
  let reading := read form text
  let inRange : Bool := least ≤ reading.value && reading.value ≤ greatest
  if inRange && (reading.rest.dropWhile isBlank).isEmpty && (reading.found || form = .marked) then
    if reading.found || text.all isBlank then some reading.value else none
  else none

def decimal? (text : List Char) : Option Int :=
  integer? .decimal text

end VersionGate.Sandbox.Number
