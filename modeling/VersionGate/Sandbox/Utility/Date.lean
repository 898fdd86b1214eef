import VersionGate.Sandbox.Number
import VersionGate.Sandbox.Utility.Arguments

namespace VersionGate.Sandbox.Utility

/-- A date of the Gregorian calendar. Months and days count from one. -/
structure CalendarDate where
  year : Int
  month : Nat
  day : Nat

namespace CalendarDate

def isLeap (year : Int) : Bool :=
  year % 4 = 0 && (year % 100 ≠ 0 || year % 400 = 0)

def daysBefore (leap : Bool) (month : Nat) : Nat :=
  let lengths := [31, if leap then 29 else 28, 31, 30, 31, 30, 31, 31, 30, 31, 30, 31]
  (lengths.take (month - 1)).foldl (· + ·) 0

/-- How many days lie between the beginning of 1970 and the beginning of a year. -/
def daysBeforeYear (year : Int) : Int :=
  let last := year - 1
  365 * (year - 1970) + (last / 4 - last / 100 + last / 400) - (1969 / 4 - 1969 / 100 + 1969 / 400)

/-- The date of a day. Its year is looked for around a guess. -/
def ofDayNumber (number : Int) : CalendarDate :=
  let guess := 1970 + number * 400 / 146097
  let year := ([guess + 1, guess].find? fun year => daysBeforeYear year ≤ number).getD (guess - 1)
  let rest := (number - daysBeforeYear year).toNat
  let leap := isLeap year
  let months := ((List.range 12).map (· + 1)).reverse
  let month := (months.find? fun month => daysBefore leap month ≤ rest).getD 1
  { year, month, day := rest - daysBefore leap month + 1 }

end CalendarDate

def filled (fill : Char) (width : Nat) (value : Int) : Octets :=
  let digits := Octets.ofInt value
  List.replicate (width - digits.length) fill ++ digits

def monthNames : List String :=
  ["January", "February", "March", "April", "May", "June", "July", "August", "September", "October",
    "November", "December"]

def weekdayNames : List String :=
  ["Sunday", "Monday", "Tuesday", "Wednesday", "Thursday", "Friday", "Saturday"]

def dateField? (seconds : Int) (letter : Char) : Option Octets :=
  let date := CalendarDate.ofDayNumber (seconds / 86400)
  let rest := seconds % 86400
  let monthName := (monthNames.getD (date.month - 1) "").toList
  let dayName := (weekdayNames.getD ((seconds / 86400 + 4) % 7).toNat "").toList
  match letter with
  | 'a' => some (dayName.take 3)
  | 'A' => some dayName
  | 'b' => some (monthName.take 3)
  | 'B' => some monthName
  | 'd' => some (filled '0' 2 date.day)
  | 'e' => some (filled ' ' 2 date.day)
  | 'H' => some (filled '0' 2 (rest / 3600))
  | 'm' => some (filled '0' 2 date.month)
  | 'M' => some (filled '0' 2 (rest / 60 % 60))
  | 's' => some (Octets.ofInt seconds)
  | 'S' => some (filled '0' 2 (rest % 60))
  | 'y' => some (filled '0' 2 (date.year % 100))
  | 'Y' => some (filled '0' 4 date.year)
  | 'Z' => some "UTC".toList
  | '%' => some ['%']
  | _ => none

def longForms : List (Char × String) :=
  [('F', "%Y-%m-%d"), ('T', "%H:%M:%S"), ('R', "%H:%M"), ('D', "%m/%d/%y")]

def dateText (seconds : Int) (format : Octets) : Octets :=
  fill (expand format)
where
  expand : Octets → Octets
    | '%' :: letter :: rest =>
      (longForms.lookup letter).elim ['%', letter] String.toList ++ expand rest
    | c :: rest => c :: expand rest
    | [] => []
  fill : Octets → Octets
    | '%' :: letter :: rest => (dateField? seconds letter).getD ['%', letter] ++ fill rest
    | c :: rest => c :: fill rest
    | [] => []

def clockStart : Int := 1760000000

def date : Job UInt8 := do
  let parsed ← Arguments.read { known := [
    { letter := 'd', long := "date", value := .needed },
    { letter := 'u', long := "utc" }, { letter := 'u', long := "universal" }] }
  let format ← match parsed.operands with
    | [] => pure "%a %b %e %T %Z %Y".toList
    | ['+' :: format] => pure format
    | operand :: _ => Job.fail 1 ("invalid date ".toList ++ Quotation.quoted operand)
  let seconds : Int ← match parsed.value? 'd' with
    | none => pure (clockStart + ((← Job.world).now / 1000000 : Nat))
    | some text =>
      match text.head?, Number.decimal? text.tail with
      | some '@', some seconds => pure seconds
      | _, _ => Job.fail 1 ("invalid date ".toList ++ Quotation.quoted text)
  Job.printLine (dateText seconds format)
  return 0

end VersionGate.Sandbox.Utility
