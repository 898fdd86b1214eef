import VersionGate.Sandbox.Format.Printf
import VersionGate.Sandbox.Regex.Reader
import VersionGate.Sandbox.Utility.Arguments

namespace VersionGate.Sandbox.Utility

/-! ### Expressions -/

namespace Expression

structure Complaint where
  text : Octets

/-- A reader of an expression: the words that are left, and the last one that was taken. -/
structure Reader where
  words : List Octets
  previous : Octets := []

abbrev Read := StateT Reader (Except Complaint)

def refuse {α : Type} (text : Octets) : Read α :=
  throw ⟨text⟩

def integer? (text : Octets) : Option Int :=
  let digits := if text.head? = some '-' then text.tail else text
  if digits.isEmpty || !digits.all Char.isDigit then none
  else
    let value : Int := Number.natural digits
    some (if text.head? = some '-' then -value else value)

def isNull (value : Octets) : Bool :=
  value.isEmpty || integer? value = some 0

def truth (holds : Bool) : Octets :=
  if holds then ['1'] else ['0']

def takeOf (choices : List String) : Read (Option String) := do
  let reader ← get
  match reader.words with
  | word :: words =>
    match choices.find? (·.toList = word) with
    | some choice =>
      set { words, previous := word : Reader }
      return some choice
    | none => return none
  | [] => return none

def needWord : Read PUnit := do
  let reader ← get
  if reader.words.isEmpty then
    refuse ("syntax error: missing argument after ".toList ++ Quotation.quoted reader.previous)

def takeWord : Read Octets := do
  needWord
  let reader ← get
  match reader.words with
  | word :: words =>
    set { words, previous := word : Reader }
    return word
  | [] => return []

/-- Matches an expression at the start of a text: what its first group has matched, or else how much
was matched. -/
def matched (text pattern : Octets) : Read Octets := do
  match Regex.read {} pattern with
  | .error fault => refuse fault.message.toList
  | .ok (regex, reader) =>
    let subject : Regex.Subject := { text, size := text.length, merges := !regex.refersBack }
    let found? := regex.matchAt subject 0 none text
    if 0 < reader.opened then return found?.elim [] (·.part text 1)
    else return Octets.ofNat (found?.elim 0 (·.stop))

def compute (operator : String) (first second : Octets) : Read Octets := do
  match integer? first, integer? second with
  | some first, some second =>
    match operator with
    | "+" => return Octets.ofInt (first + second)
    | "-" => return Octets.ofInt (first - second)
    | "*" => return Octets.ofInt (first * second)
    | _ =>
      if second = 0 then refuse "division by zero".toList
      return Octets.ofInt
        (if operator = "/" then Int.tdiv first second else Int.tmod first second)
  | _, _ => refuse "non-integer argument".toList

/-- Compares two values: as numbers if both are numbers. -/
def compare (operator : String) (first second : Octets) : Bool :=
  let order : Ordering := match integer? first, integer? second with
    | some first, some second => Ord.compare first second
    | _, _ => Octets.order first second
  match operator with
  | "<" => order = .lt
  | "<=" => order ≠ .gt
  | ">" => order = .gt
  | ">=" => order ≠ .lt
  | "!=" => order ≠ .eq
  | _ => order = .eq

def part (text start length : Octets) : Octets :=
  match integer? start, integer? length with
  | some start, some length =>
    if start ≤ 0 || length ≤ 0 then []
    else (text.drop (start.toNat - 1)).take length.toNat
  | _, _ => []

def place (text bytes : Octets) : Octets :=
  Octets.ofNat ((text.findIdx? (· ∈ bytes)).elim 0 (· + 1))

def operators : List (List String) :=
  [["|"], ["&"], ["<", "<=", "=", "==", "!=", ">=", ">"], ["+", "-"], ["*", "/", "%"], [":"]]

/-- Applies an operator; what is not needed has only been read. -/
def apply (needed : Bool) (operator : String) (first second : Octets) : Read Octets := do
  match operator with
  | "|" =>
    return if !isNull first then first else if isNull second then ['0'] else second
  | "&" => return if isNull first || isNull second then ['0'] else first
  | _ =>
    if !needed then return first
    else if operator = ":" then matched first second
    else if operator ∈ ["+", "-", "*", "/", "%"] then compute operator first second
    else return truth (compare operator first second)

mutual

def level : Nat → Bool → List (List String) → Read Octets
  | 0, _, _ => return []
  | fuel + 1, needed, levels => do
    match levels with
    | [] => word fuel needed
    | choices :: tighter =>
      let first ← level fuel needed tighter
      further fuel needed choices tighter first

def further : Nat → Bool → List String → List (List String) → Octets → Read Octets
  | 0, _, _, _, value => return value
  | fuel + 1, needed, choices, tighter, first => do
    match ← takeOf choices with
    | none => return first
    | some operator =>
      let neededRight := needed &&
        (if operator = "|" then isNull first else operator ≠ "&" || !isNull first)
      let second ← level fuel neededRight tighter
      let value ← apply needed operator first second
      further fuel needed choices tighter value

def word : Nat → Bool → Read Octets
  | 0, _ => return []
  | fuel + 1, needed => do
    needWord
    match ← takeOf ["+", "length", "match", "index", "substr"] with
    | some "+" => takeWord
    | some "length" => return Octets.ofNat (← word fuel needed).length
    | some "match" =>
      let text ← word fuel needed
      let pattern ← word fuel needed
      if needed then matched text pattern else return text
    | some "index" =>
      let text ← word fuel needed
      return place text (← word fuel needed)
    | some _ =>
      let text ← word fuel needed
      let start ← word fuel needed
      return part text start (← word fuel needed)
    | none =>
      match ← takeOf ["(", ")"] with
      | some "(" =>
        let value ← level fuel needed operators
        let reader ← get
        match reader.words with
        | [] =>
          refuse ("syntax error: expecting ')' after ".toList ++ Quotation.quoted reader.previous)
        | [')'] :: words =>
          set { words, previous := [')'] : Reader }
          return value
        | other :: _ =>
          refuse ("syntax error: expecting ')' instead of ".toList ++ Quotation.quoted other)
      | some _ => refuse "syntax error: unexpected ')'".toList
      | none => takeWord

end

def evaluate (words : List Octets) : Except Complaint Octets := do
  let fuel := 16 * words.length + 16
  let (value, reader) ← (level fuel true operators).run { words }
  match reader.words with
  | [] => return value
  | word :: _ => throw ⟨"syntax error: unexpected argument ".toList ++ Quotation.quoted word⟩

end Expression

def expr : Job UInt8 := do
  let args := (← Job.call).args
  if args = ["--version".toList] then
    Arguments.showVersion Arguments.coreutils Arguments.coreutilsVersion
  if args = ["--help".toList] then Job.exit 0
  let words := if args.head? = some ['-', '-'] then args.tail else args
  if words.isEmpty then Job.misuse 2 "missing operand".toList
  match Expression.evaluate words with
  | .error complaint => Job.fail 2 complaint.text
  | .ok value =>
    Job.printLine value
    return if Expression.isNull value then 1 else 0

/-! ### Sequences -/

/-- A decimal number: an integer over a power of ten. -/
structure Decimal where
  value : Int
  places : Nat

namespace Decimal

def read? (text : Octets) : Option Decimal :=
  let body := text.dropWhile CharacterClass.isSpace
  let (negative, body) := match body with
    | '-' :: rest => (true, rest)
    | '+' :: rest => (false, rest)
    | _ => (false, body)
  let whole := body.takeWhile Char.isDigit
  let after := body.drop whole.length
  let (fraction, after) := match after with
    | '.' :: rest =>
      let digits := rest.takeWhile Char.isDigit
      (digits, rest.drop digits.length)
    | _ => ([], after)
  let (exponent, after) := Floating.readExponent 'e' 'E' after
  if (whole.isEmpty && fraction.isEmpty) || !after.isEmpty then none
  else
    let digits : Int := Number.natural (whole ++ fraction)
    let shift := exponent - fraction.length
    let scaled := if 0 ≤ shift then digits * Int.pow 10 (min shift.toNat 400) else digits
    some { value := if negative then -scaled else scaled, places := (-shift).toNat }

def at_ (number : Decimal) (places : Nat) : Int :=
  number.value * Int.pow 10 (places - number.places)

def text (places width : Nat) (value : Int) : Octets :=
  let digits := Octets.ofNat value.natAbs
  let digits := List.replicate (places + 1 - digits.length) '0' ++ digits
  let point := if places = 0 then [] else '.' :: digits.drop (digits.length - places)
  let body := digits.take (digits.length - places) ++ point
  let sign : Octets := if value < 0 then ['-'] else []
  sign ++ List.replicate (width - sign.length - body.length) '0' ++ body

end Decimal

def sequenceLimit : Nat := 400000

def sequenceFrom (step last : Int) : Nat → Int → List Int
  | 0, _ => []
  | fuel + 1, value =>
    if (0 < step && last < value) || (step < 0 && value < last) then []
    else value :: sequenceFrom step last fuel (value + step)

/-- The words of a call with a mark in front of a first operand that looks like an option: a negative
number is none. -/
def markOperands : List Octets → List Octets
  | [] => []
  | word :: words =>
    match word with
    | '-' :: c :: rest =>
      if c.isDigit || c = '.' then ['-', '-'] :: word :: words
      else if c = '-' && rest.isEmpty then word :: words
      else if rest.isEmpty && (c = 's' || c = 'f') then
        match words with
        | value :: words => word :: value :: markOperands words
        | [] => [word]
      else word :: markOperands words
    | _ => word :: words

def seq : Job UInt8 := do
  let args := (← Job.call).args
  let parsed ← Arguments.readWords {
      known := [
        { letter := 'f', long := "format", value := .needed },
        { letter := 's', long := "separator", value := .needed },
        { letter := 'w', long := "equal-width" }]
      ordered := true }
    (markOperands args)
  if parsed.operands.isEmpty then Job.misuse 1 "missing operand".toList
  if let some operand := parsed.operands[3]? then
    Job.misuse 1 ("extra operand ".toList ++ Quotation.quoted operand)
  let numbers ← parsed.operands.mapM fun text =>
    match Decimal.read? text with
    | some number => pure number
    | none => Job.misuse 1 ("invalid floating point argument: ".toList ++ Quotation.quoted text)
  let one : Decimal := ⟨1, 0⟩
  let (first, step, last) := match numbers with
    | [last] => (one, one, last)
    | [first, last] => (first, one, last)
    | first :: step :: last :: _ => (first, step, last)
    | [] => (one, one, one)
  if step.value = 0 then
    Job.misuse 1
      ("invalid Zero increment value: ".toList ++ Quotation.quoted (parsed.operands[1]?.getD []))
  let shownPlaces := max first.places step.places
  let places := max shownPlaces last.places
  let values := sequenceFrom (step.at_ places) (last.at_ places) sequenceLimit (first.at_ places)
  let shrunk (value : Int) : Int := Int.tdiv value (Int.pow 10 (places - shownPlaces))
  let plain (value : Int) : Octets := Decimal.text shownPlaces 0 (shrunk value)
  let width := if parsed.has 'w' then
      max (plain (first.at_ places)).length (plain (last.at_ places)).length
    else 0
  let shown (value : Int) : Octets := match parsed.value? 'f' with
    | some format =>
      (Printf.run .program format [Decimal.text shownPlaces 0 (shrunk value)]).output
    | none => Decimal.text shownPlaces width (shrunk value)
  let separator := (parsed.value? 's').getD ['\n']
  if !values.isEmpty then
    Job.print (separator.intercalate (values.map shown) ++ ['\n'])
  return 0

/-! ### Divisors -/

def divisorsFrom : Nat → Nat → Nat → List Nat
  | 0, _, _ => []
  | fuel + 1, divisor, number =>
    if number < divisor * divisor then if number = 1 then [] else [number]
    else if number % divisor = 0 then divisor :: divisorsFrom fuel divisor (number / divisor)
    else divisorsFrom fuel (divisor + 1) number

def factor : Job UInt8 := do
  let parsed ← Arguments.read { known := [] }
  let step (code : UInt8) (word : Octets) : Job UInt8 := do
    if word.isEmpty || !word.all Char.isDigit then
      Job.complain (Quotation.quoted word ++ " is not a valid positive integer".toList)
      return 1
    let number := Number.natural word
    let divisors := divisorsFrom (number.sqrt + 64) 2 number
    Job.printLine (Octets.ofNat number ++ ':' :: divisors.flatMap (' ' :: Octets.ofNat ·))
    return code
  parsed.operands.foldlM step 0

end VersionGate.Sandbox.Utility
