import VersionGate.Sandbox.Number

/-!
Floating-point numbers as they are read and written: binary fractions of limited precision.

A number is read exactly and rounded once to the nearest fraction, of two equally near ones to the
even one. It is written from its exact value, rounded the same way, or with as few digits as tell it
apart from others.
-/

namespace VersionGate.Sandbox

/-- A kind of floating-point numbers: the digits of the fraction, and the exponents of the lowest
digit between which it can lie. -/
structure Precision where
  digits : Nat
  lowest : Int
  highest : Int

namespace Precision

def double : Precision := ⟨53, -1074, 971⟩

def extended : Precision := ⟨64, -16445, 16320⟩

end Precision

inductive Magnitude where
  | finite (fraction : Nat) (exponent : Int)
  | infinite
  | notNumber
deriving DecidableEq

structure Floating where
  negative : Bool
  magnitude : Magnitude
deriving DecidableEq

namespace Floating

/-- The quotient of two numbers rounded to the nearest, or to the even one of the two nearest. -/
def roundedQuotient (numerator denominator : Nat) : Nat :=
  let quotient := numerator / denominator
  let twice := 2 * (numerator % denominator)
  if denominator < twice || (twice = denominator && quotient % 2 = 1) then quotient + 1
  else quotient

def scaled (numerator denominator : Nat) (power : Int) : Nat × Nat :=
  if 0 ≤ power then (numerator * Nat.pow 2 power.toNat, denominator)
  else (numerator, denominator * Nat.pow 2 (-power).toNat)

def nearest (precision : Precision) (numerator denominator : Nat) : Magnitude × Bool :=
  if numerator = 0 then (.finite 0 0, false)
  else
    let guess : Int := (numerator.log2 : Int) - denominator.log2 - precision.digits
    let lower (exponent : Int) : Bool :=
      let (top, bottom) := scaled numerator denominator (-exponent)
      top < Nat.pow 2 precision.digits * bottom
    let exponent := ([guess, guess + 1, guess + 2].find? lower).getD guess
    let exponent := max exponent precision.lowest
    let (top, bottom) := scaled numerator denominator (-exponent)
    let fraction := roundedQuotient top bottom
    let (fraction, exponent) :=
      if fraction = Nat.pow 2 precision.digits then (fraction / 2, exponent + 1)
      else (fraction, exponent)
    if precision.highest < exponent then (.infinite, true)
    else (.finite fraction exponent, fraction = 0)

/-! ### Reading -/

structure Reading where
  value : Floating
  found : Bool
  outOfRange : Bool
  rest : List Char

def readExponent (lower upper : Char) (text : List Char) : Int × List Char :=
  match text with
  | mark :: after =>
    let signed := match after with
      | '-' :: rest => (true, rest)
      | '+' :: rest => (false, rest)
      | _ => (false, after)
    let digits := signed.2.takeWhile Char.isDigit
    if (mark = lower || mark = upper) && !digits.isEmpty then
      let value : Int := min 1000000 (Number.natural (digits.take 20))
      (if signed.1 then -value else value, signed.2.drop digits.length)
    else (0, text)
  | [] => (0, text)

/-- The exponents beyond which a number is out of range whatever its precision. -/
def exponentLimit : Int := 20000

/-- Reads digits of a base with a point among them and an exponent of another base. -/
def readDigits (precision : Precision) (base power : Nat) (lower upper : Char) (text : List Char) :
    Option (Magnitude × Bool × List Char) :=
  let whole := text.takeWhile (Number.isDigitOf base)
  let after := text.drop whole.length
  let (part, after) := match after with
    | '.' :: rest =>
      let part := rest.takeWhile (Number.isDigitOf base)
      if whole.isEmpty && part.isEmpty then ([], after) else (part, rest.drop part.length)
    | _ => ([], after)
  if whole.isEmpty && part.isEmpty then none
  else
    let (exponent, rest) := readExponent lower upper after
    let digits := Number.ofDigits base (whole ++ part)
    let places := Nat.pow base part.length
    let size := exponent + whole.length
    let (magnitude, outOfRange) :=
      if digits = 0 then (Magnitude.finite 0 0, false)
      else if exponentLimit < size then (.infinite, true)
      else if size < -exponentLimit then (.finite 0 0, true)
      else if 0 ≤ exponent then nearest precision (digits * Nat.pow power exponent.toNat) places
      else nearest precision digits (places * Nat.pow power (-exponent).toNat)
    some (magnitude, outOfRange, rest)

def dropWord? (word : String) (text : List Char) : Option (List Char) :=
  let length := word.length
  if (text.take length).map Char.toLower = word.toList then some (text.drop length) else none

/-- Reads a number without its sign. -/
def readMagnitude (precision : Precision) (text : List Char) :
    Option (Magnitude × Bool × List Char) :=
  match dropWord? "infinity" text, dropWord? "inf" text, dropWord? "nan" text with
  | some rest, _, _ => some (.infinite, false, rest)
  | none, some rest, _ => some (.infinite, false, rest)
  | none, none, some rest => some (.notNumber, false, rest)
  | none, none, none =>
    let hex := match text with
      | '0' :: mark :: rest =>
        if mark = 'x' || mark = 'X' then readDigits precision 16 2 'p' 'P' rest else none
      | _ => none
    match hex with
    | some found => some found
    | none => readDigits precision 10 10 'e' 'E' text

def read (precision : Precision) (text : List Char) : Reading :=
  let after := text.dropWhile Number.isBlank
  let (negative, after) := match after with
    | '-' :: rest => (true, rest)
    | '+' :: rest => (false, rest)
    | _ => (false, after)
  match readMagnitude precision after with
  | some (magnitude, outOfRange, rest) => ⟨⟨negative, magnitude⟩, true, outOfRange, rest⟩
  | none => ⟨⟨false, .finite 0 0⟩, false, false, text⟩

def ofNat (precision : Precision) (value : Nat) : Floating :=
  ⟨false, (nearest precision value 1).1⟩

/-! ### Writing -/

def decimalQuotient (fraction : Nat) (exponent power : Int) : Nat × Nat :=
  let (top, bottom) := scaled fraction 1 exponent
  if 0 ≤ power then (top * Nat.pow 10 power.toNat, bottom)
  else (top, bottom * Nat.pow 10 (-power).toNat)

/-- Digits with a point before the last ones; the point may be left out where none follow. -/
def withPoint (keepsPoint : Bool) (digits : List Char) (places : Nat) : Octets :=
  let digits := List.replicate (places + 1 - digits.length) '0' ++ digits
  let whole := digits.take (digits.length - places)
  let part := digits.drop (digits.length - places)
  if part.isEmpty && !keepsPoint then whole else whole ++ '.' :: part

def fixedText (keepsPoint : Bool) (places : Nat) (fraction : Nat) (exponent : Int) : Octets :=
  let (top, bottom) := decimalQuotient fraction exponent places
  withPoint keepsPoint (Nat.toDigits 10 (roundedQuotient top bottom)) places

/-- The decimal exponent of a value: the power of ten of its first digit. -/
def decimalExponent (fraction : Nat) (exponent : Int) : Int :=
  let bits : Int := (fraction.log2 : Int) + exponent
  let guess : Int := bits * 30103 / 100000
  let reaches (power : Int) : Bool :=
    let (top, bottom) := decimalQuotient fraction exponent (-power)
    bottom ≤ top
  ([guess + 2, guess + 1, guess, guess - 1].find? reaches).getD (guess - 2)

/-- The first digits of a value, rounded, and the power of ten of the first one. -/
def leadingDigits (count : Nat) (fraction : Nat) (exponent : Int) : List Char × Int :=
  if fraction = 0 then (List.replicate count '0', 0)
  else
    let power := decimalExponent fraction exponent
    let (top, bottom) := decimalQuotient fraction exponent (count - 1 - power)
    let digits := Nat.toDigits 10 (roundedQuotient top bottom)
    if count < digits.length then (digits.take count, power + 1) else (digits, power)

def exponentText (mark : Char) (least : Nat) (exponent : Int) : Octets :=
  let digits := Octets.ofNat exponent.natAbs
  mark :: (if exponent < 0 then '-' else '+') ::
    (List.replicate (least - digits.length) '0' ++ digits)

def scientificText (keepsPoint : Bool) (places : Nat) (fraction : Nat) (exponent : Int) : Octets :=
  let (digits, power) := leadingDigits (places + 1) fraction exponent
  withPoint keepsPoint digits places ++ exponentText 'e' 2 power

/-- A written number without the zeros at its end, and without a point at the end. -/
def dropZeros (text : Octets) : Octets :=
  if '.' ∈ text then
    let short := (text.reverse.dropWhile (· = '0')).reverse
    if short.getLast? = some '.' then short.dropLast else short
  else text

def generalText (keepsZeros : Bool) (count : Nat) (fraction : Nat) (exponent : Int) : Octets :=
  let count := max count 1
  let (digits, power) := leadingDigits count fraction exponent
  let finish (text : Octets) : Octets := if keepsZeros then text else dropZeros text
  if power < -4 || (count : Int) ≤ power then
    finish (withPoint keepsZeros digits (count - 1)) ++ exponentText 'e' 2 power
  else finish (fixedText keepsZeros ((count : Int) - 1 - power).toNat fraction exponent)

def magnitudeText (conversion : Char) (alternative : Bool) (places : Option Nat)
    (magnitude : Magnitude) : Octets :=
  match magnitude with
  | .infinite => "inf".toList
  | .notNumber => "nan".toList
  | .finite fraction exponent =>
    match conversion with
    | 'f' => fixedText alternative (places.getD 6) fraction exponent
    | 'e' => scientificText alternative (places.getD 6) fraction exponent
    | _ => generalText alternative (places.getD 6) fraction exponent

end Floating

end VersionGate.Sandbox
