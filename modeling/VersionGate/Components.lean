import VersionGate.Text.DecimalDigit

namespace VersionGate

def componentLimit : Nat :=
  18446744073709551616

/-- The digit groups of the longest run of digits and single dots at the start of a text. A dot
belongs to the run only if a digit follows it. -/
def digitGroups : List Char → List (List Char)
  | [] => []
  | [c] => if Text.isDecimalDigit c then [[c]] else []
  | c :: next :: rest =>
    if !Text.isDecimalDigit c then []
    else if next = '.' then [c] :: digitGroups rest
    else
      match digitGroups (next :: rest) with
      | [] => [[c]]
      | group :: later => (c :: group) :: later

def decimalValue? (digits : List Char) : Option Nat :=
  digits.foldl
    (fun value? c => value?.bind fun value => (Text.asciiDigitValue? c).map (10 * value + ·))
    (some 0)

/-- The number a digit group stands for, if it is written in ASCII and within the bound. -/
def component? (group : List Char) : Option Nat :=
  (decimalValue? group).filter (· < componentLimit)

/-- A text without a given beginning, or the text itself if it begins otherwise. -/
def dropStem (stem text : List Char) : List Char :=
  if stem.isPrefixOf text then text.drop stem.length else text

def dropMark (text : List Char) : List Char :=
  if text.head? = some 'v' then text.tail else text

/-- The components of a version: one leading toolchain name and one leading v are dropped, and the
longest dotted run of digits is read. There are none if no digit comes next, or if any group of the
run is not ASCII or out of bounds. -/
def components? (version toolchain : String) : Option (List Nat) :=
  match digitGroups (dropMark (dropStem toolchain.toList version.toList)) with
  | [] => none
  | groups => groups.mapM component?

/-- Compares component by component; a missing component counts as zero. -/
def compareComponents : List Nat → List Nat → Ordering
  | [], [] => .eq
  | [], r :: required => (compare 0 r).then (compareComponents [] required)
  | i :: installed, [] => (compare i 0).then (compareComponents installed [])
  | i :: installed, r :: required => (compare i r).then (compareComponents installed required)

end VersionGate
