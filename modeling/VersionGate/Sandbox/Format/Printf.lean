import VersionGate.Sandbox.Format.Escape
import VersionGate.Sandbox.Format.Floating
import VersionGate.Sandbox.Format.Quotation

namespace VersionGate.Sandbox.Printf

inductive Size where
  | given (value : Nat)
  | asked
deriving DecidableEq

structure Directive where
  flags : List Char := []
  width : Option Size := none
  precision : Option Size := none
  conversion : Char
  text : List Char

inductive Piece where
  | literal (octets : Octets)
  | directive (directive : Directive)
  | stop
  | unfinished (text : List Char)
  | incomplete

/-- Reads a size: digits, or a star. -/
def readSize (text : List Char) : Option Size × List Char :=
  match text with
  | '*' :: rest => (some .asked, rest)
  | _ =>
    let digits := text.takeWhile Char.isDigit
    if digits.isEmpty then (none, text)
    else (some (.given (Number.natural digits)), text.drop digits.length)

/-- The letters that may stand before a conversion in a program and mean nothing. -/
def isModifier (c : Char) : Bool :=
  c ∈ ['h', 'j', 'l', 'L', 't', 'z']

def readDirective (home : Home) (text : List Char) : Option (Directive × List Char) :=
  let isFlag (c : Char) : Bool :=
    c ∈ ['-', '+', ' ', '0', '#'] || (home = .program && (c = '\'' || c = 'I'))
  let flags := text.takeWhile isFlag
  let (width, after) := readSize (text.drop flags.length)
  let (precision, after) := match after with
    | '.' :: rest =>
      let (size, rest) := readSize rest
      (some (size.getD (.given 0)), rest)
    | _ => (none, after)
  let bare := if home = .shell then after else after.dropWhile isModifier
  match bare with
  | [] => none
  | conversion :: rest =>
    let text := '%' :: text.take (text.length - rest.length)
    some ({ flags, width, precision, conversion, text }, rest)

def piecesFrom (home : Home) : Nat → List Char → List Piece
  | 0, _ => []
  | _ + 1, [] => []
  | fuel + 1, '\\' :: text =>
    match Escape.read home .format text with
    | .octets octets rest => .literal octets :: piecesFrom home fuel rest
    | .stop => [.stop]
    | .incomplete => [.incomplete]
  | fuel + 1, '%' :: '%' :: text => .literal ['%'] :: piecesFrom home fuel text
  | fuel + 1, '%' :: text =>
    match readDirective home text with
    | some (directive, rest) => .directive directive :: piecesFrom home fuel rest
    | none => [.unfinished ('%' :: text)]
  | fuel + 1, c :: text => .literal [c] :: piecesFrom home fuel text

def pieces (home : Home) (format : List Char) : List Piece :=
  piecesFrom home (format.length + 1) format

/-! ### Numbers -/

inductive NumberFault where
  | missing
  | unfinished
  | outOfRange
deriving DecidableEq

def numberComplaint (home : Home) (arg : Octets) (fault : NumberFault) : Octets :=
  match home with
  | .program =>
    Quotation.quoted arg ++ match fault with
      | .missing => ": expected a numeric value".toList
      | .unfinished => ": value not completely converted".toList
      | .outOfRange => ": Numerical result out of range".toList
  | .shell =>
    arg ++ match fault with
      | .missing => ": expected numeric value".toList
      | .unfinished => ": not completely converted".toList
      | .outOfRange => ": Numerical result out of range".toList

/-- The complaint about a reading, if there is one. Bad ends and bad ranges are told in an order that
differs between programs and the shell. -/
def readingComplaint (home : Home) (arg : Octets) (found outOfRange : Bool) (rest : List Char) :
    Option Octets :=
  let fault? : Option NumberFault :=
    if outOfRange && (home ≠ .shell || rest.isEmpty) then some .outOfRange
    else if rest.isEmpty then none
    else some (if found then .unfinished else .missing)
  fault?.map (numberComplaint home arg)

/-- The code of the character after a quote, with a complaint about what follows it. -/
def readQuotedCharacter? (home : Home) (arg : Octets) : Option (Nat × Option Octets) :=
  match arg with
  | mark :: rest =>
    if mark = '\'' || mark = '"' then
      match home, rest with
      | .program, [] => none
      | .program, [c] => some (c.toNat, none)
      | .program, c :: excess =>
        some (c.toNat, some ("warning: ".toList ++ excess ++
          ": character(s) following character constant have been ignored".toList))
      | _, c :: _ => some (c.toNat, none)
      | _, [] => some (0, none)
    else none
  | [] => none

/-- The greatest number of 64 bits without a sign. -/
def greatestUnsigned : Nat := 18446744073709551615

def readInteger (home : Home) (signed : Bool) (arg : Octets) : Int × Option Octets :=
  match readQuotedCharacter? home arg with
  | some (code, complaint) => (code, complaint)
  | none =>
    let reading := Number.read .marked arg
    let limited : Int :=
      if signed then Number.saturate reading.value
      else if reading.value.natAbs ≤ greatestUnsigned then reading.value
      else greatestUnsigned
    let rest := if reading.found then reading.rest else arg
    (limited, readingComplaint home arg reading.found (limited != reading.value) rest)

def precision : Home → Precision
  | .shell => .double
  | .program => .extended

/-- Reads an argument as a floating-point number, with a complaint if it is none. -/
def readFloating (home : Home) (arg : Octets) : Floating × Option Octets :=
  match readQuotedCharacter? home arg with
  | some (code, complaint) => (.ofNat (precision home) code, complaint)
  | none =>
    let reading := Floating.read (precision home) arg
    let rest := if reading.found then reading.rest else arg
    (reading.value, readingComplaint home arg reading.found reading.outOfRange rest)

/-! ### Fields -/

structure Layout where
  leftAligned : Bool
  signed : Bool
  spaced : Bool
  zeroPadded : Bool
  alternative : Bool
  width : Nat
  precision : Option Nat

namespace Layout

def pad (layout : Layout) (octets : Octets) : Octets :=
  let missing := layout.width - octets.length
  if layout.leftAligned then octets ++ List.replicate missing ' '
  else List.replicate missing ' ' ++ octets

def padNumber (layout : Layout) (fillsZeros : Bool) (sign digits : Octets) : Octets :=
  if layout.zeroPadded && !layout.leftAligned && fillsZeros then
    sign ++ List.replicate (layout.width - sign.length - digits.length) '0' ++ digits
  else layout.pad (sign ++ digits)

def sign (layout : Layout) (negative : Bool) : Octets :=
  if negative then ['-'] else if layout.signed then ['+'] else if layout.spaced then [' '] else []

/-- Digits with zeros in front up to the precision; zero has none at the precision zero. -/
def digits (layout : Layout) (base value : Nat) : Octets :=
  let text := if value = 0 && layout.precision = some 0 then [] else Nat.toDigits base value
  List.replicate (layout.precision.getD 1 - text.length) '0' ++ text

def integerText (layout : Layout) (conversion : Char) (value : Int) : Octets :=
  let fillsZeros := layout.precision.isNone
  let pattern := (value % 18446744073709551616).toNat
  match conversion with
  | 'u' => layout.padNumber fillsZeros [] (layout.digits 10 pattern)
  | 'o' =>
    let text := layout.digits 8 pattern
    let text := if layout.alternative && text.head? ≠ some '0' then '0' :: text else text
    layout.padNumber fillsZeros [] text
  | 'x' =>
    let mark := if layout.alternative && pattern ≠ 0 then ['0', 'x'] else []
    layout.padNumber fillsZeros mark (layout.digits 16 pattern)
  | 'X' =>
    let mark := if layout.alternative && pattern ≠ 0 then ['0', 'X'] else []
    layout.padNumber fillsZeros mark ((layout.digits 16 pattern).map Char.toUpper)
  | _ => layout.padNumber fillsZeros (layout.sign (value < 0)) (layout.digits 10 value.natAbs)

def floatingText (layout : Layout) (conversion : Char) (value : Floating) : Octets :=
  let isFinite := match value.magnitude with
    | .finite .. => true
    | _ => false
  let text :=
    Floating.magnitudeText conversion.toLower layout.alternative layout.precision value.magnitude
  let text := if conversion.isUpper then text.map Char.toUpper else text
  layout.padNumber isFinite (layout.sign value.negative) text

def cut (layout : Layout) (octets : Octets) : Octets :=
  match layout.precision with
  | some length => octets.take length
  | none => octets

end Layout

/-! ### Going through a format -/

structure Outcome where
  output : Octets := []
  complaints : List Octets := []
  status : Nat := 0
  failed : Bool := false

/-- The state of formatting; outputs and complaints are newest first. -/
structure Progress where
  home : Home
  written : List Octets := []
  complaints : List Octets := []
  args : List Octets
  consumed : Bool := false
  stopped : Bool := false
  failed : Bool := false
  status : Nat := 0

namespace Progress

def say (progress : Progress) (octets : Octets) : Progress :=
  { progress with written := octets :: progress.written }

def complain (progress : Progress) (text : Octets) : Progress :=
  { progress with complaints := text :: progress.complaints, status := 1 }

def giveUp (progress : Progress) (text : Octets) : Progress :=
  { progress.complain text with stopped := true, failed := true }

/-- Takes the next argument; one that is missing is empty. -/
def take (progress : Progress) : Octets × Progress :=
  (progress.args.head?.getD [], { progress with args := progress.args.tail, consumed := true })

def mayComplain (progress : Progress) (complaint : Option Octets) : Progress :=
  match complaint with
  | some text =>
    let told := progress.complain text
    if text.take 8 = "warning:".toList then { told with status := progress.status } else told
  | none => progress

def size (progress : Progress) : Option Size → Option Int × Progress
  | none => (none, progress)
  | some (.given value) => (some value, progress)
  | some .asked =>
    let (arg, progress) := progress.take
    let (value, complaint) := readInteger progress.home true arg
    (some value, progress.mayComplain complaint)

/-- The conversions that go without some flags or sizes in a program. -/
def isRefused (directive : Directive) : Bool :=
  let has (flags : List Char) : Bool := directive.flags.any (· ∈ flags)
  match directive.conversion with
  | 'c' => has ['\'', '0', '#', 'I'] || directive.precision.isSome
  | 's' => has ['\'', '0', '#', 'I']
  | 'd' => has ['#']
  | 'i' => has ['#']
  | 'u' => has ['#']
  | 'o' => has ['\'', 'I']
  | 'x' => has ['\'', 'I']
  | 'X' => has ['\'', 'I']
  | 'b' => directive.text.length ≠ 2
  | 'q' => directive.text.length ≠ 2
  | 'e' => has ['\'', 'I']
  | 'E' => has ['\'', 'I']
  | _ => false

def isKnown (home : Home) (conversion : Char) : Bool :=
  conversion ∈ "bcsdiuoxXeEfFgG".toList || (home = .program && conversion = 'q')

def fill (progress : Progress) (directive : Directive) : Progress :=
  let (width, progress) := progress.size directive.width
  let (precision, progress) := progress.size directive.precision
  let layout : Layout := {
    leftAligned := '-' ∈ directive.flags || width.any (· < 0)
    signed := '+' ∈ directive.flags
    spaced := ' ' ∈ directive.flags
    zeroPadded := '0' ∈ directive.flags
    alternative := '#' ∈ directive.flags
    width := (width.getD 0).natAbs
    precision := (precision.filter (0 ≤ ·)).map Int.toNat }
  let (arg, progress) := progress.take
  match directive.conversion with
  | 's' => progress.say (layout.pad (layout.cut arg))
  | 'c' => progress.say (layout.pad [arg.head?.getD '\x00'])
  | 'q' => progress.say (Quotation.commandWord arg)
  | 'b' =>
    let (octets, finish) := Escape.expand progress.home .argument arg
    let progress := progress.say (layout.pad (layout.cut octets))
    match finish with
    | .complete => progress
    | .stopped => { progress with stopped := true }
    | .incomplete => progress.giveUp "missing hexadecimal number in escape".toList
  | conversion =>
    if conversion ∈ ['e', 'E', 'f', 'F', 'g', 'G'] then
      let (value, complaint) := readFloating progress.home arg
      (progress.mayComplain complaint).say (layout.floatingText conversion value)
    else
      let signed := conversion = 'd' || conversion = 'i'
      let (value, complaint) := readInteger progress.home signed arg
      (progress.mayComplain complaint).say (layout.integerText conversion value)

def directiveComplaint (home : Home) (text : List Char) : Octets :=
  match home with
  | .program => text ++ ": invalid conversion specification".toList
  | .shell => text ++ ": invalid directive".toList

def advance (progress : Progress) (piece : Piece) : Progress :=
  if progress.stopped then progress
  else
    match piece with
    | .literal octets => progress.say octets
    | .stop => { progress with stopped := true }
    | .incomplete => progress.giveUp "missing hexadecimal number in escape".toList
    | .unfinished text =>
      match progress.home with
      | .program => progress.giveUp (directiveComplaint .program text)
      | .shell => progress.giveUp "missing format character".toList
    | .directive directive =>
      let refuses := progress.home = .program && isRefused directive
      if isKnown progress.home directive.conversion && !refuses then progress.fill directive
      else progress.giveUp (directiveComplaint progress.home directive.text)

def repeatFormat (format : List Piece) : Nat → Progress → Progress
  | 0, progress => progress
  | fuel + 1, progress =>
    let next := format.foldl advance { progress with consumed := false }
    if next.stopped || !next.consumed || next.args.isEmpty then next
    else repeatFormat format fuel next

end Progress

def run (home : Home) (format : Octets) (args : List Octets) : Outcome :=
  let done := Progress.repeatFormat (pieces home format) (args.length + 1) { home, args }
  let excess : List Octets := match done.args with
    | arg :: _ =>
      if home = .program && !done.stopped && !done.consumed then
        ["warning: ignoring excess arguments, starting with ".toList ++ Quotation.quoted arg]
      else []
    | [] => []
  { output := done.written.reverse.flatten
    complaints := done.complaints.reverse ++ excess
    status := if done.failed && home = .shell then 2 else done.status
    failed := done.failed }

end VersionGate.Sandbox.Printf
