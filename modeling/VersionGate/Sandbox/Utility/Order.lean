import VersionGate.Sandbox.Format.Floating
import VersionGate.Sandbox.Utility.Arguments

namespace VersionGate.Sandbox.Utility

/-! ### Orders of texts -/

namespace TextOrder

/-- The sign, the digits before the point without zeros at the front, and the digits after it without
zeros at the end. -/
structure Numeral where
  negative : Bool
  whole : List Char
  fraction : List Char

def numeral (text : Octets) : Numeral × Octets :=
  let text := text.dropWhile fun c => CharacterClass.isBlank c || c = '\n'
  let negative := text.head? = some '-'
  let text := if negative then text.tail else text
  let whole := text.takeWhile Char.isDigit
  let after := text.drop whole.length
  let fraction := if after.head? = some '.' then after.tail.takeWhile Char.isDigit else []
  let rest := if after.head? = some '.' then after.drop (fraction.length + 1) else after
  ({ negative, whole := whole.dropWhile (· = '0')
     fraction := (fraction.reverse.dropWhile (· = '0')).reverse }, rest)

def Numeral.isZero (numeral : Numeral) : Bool :=
  numeral.whole.isEmpty && numeral.fraction.isEmpty

/-- The order of two numbers without their signs. -/
def magnitudes (first second : Numeral) : Ordering :=
  (compare first.whole.length second.whole.length).then <|
    (Octets.order first.whole second.whole).then (Octets.order first.fraction second.fraction)

def numerals (first second : Numeral) : Ordering :=
  let isBelow (numeral : Numeral) : Bool := numeral.negative && !numeral.isZero
  match isBelow first, isBelow second with
  | true, true => magnitudes second first
  | true, false => .lt
  | false, true => .gt
  | false, false => magnitudes first second

def numeric (first second : Octets) : Ordering :=
  numerals (numeral first).1 (numeral second).1

/-- The order of numbers with units: first by the unit. -/
def withUnits (first second : Octets) : Ordering :=
  let rank (text : Octets) : Int :=
    let (value, rest) := numeral text
    let unit := (rest.head?.bind fun c =>
      [('k', 1), ('K', 1), ('M', 2), ('G', 3), ('T', 4), ('P', 5), ('E', 6), ('Z', 7), ('Y', 8),
        ('R', 9), ('Q', 10)].lookup c).getD 0
    if value.isZero then 0 else if value.negative then -unit else unit
  (compare (rank first) (rank second)).then (numeric first second)

def general (first second : Octets) : Ordering :=
  let rank (text : Octets) : Int × Int × Nat :=
    let reading := Floating.read .extended text
    if !reading.found then (0, 0, 1)
    else
      match reading.value.magnitude with
      | .notNumber => (1, 0, 1)
      | .infinite => (if reading.value.negative then 2 else 4, 0, 1)
      | .finite fraction exponent =>
        let (top, bottom) := Floating.scaled fraction 1 exponent
        (3, if reading.value.negative then -top else top, bottom)
  let (kind, top, bottom) := rank first
  let (otherKind, otherTop, otherBottom) := rank second
  (compare kind otherKind).then (compare (top * otherBottom) (otherTop * bottom))

def months (first second : Octets) : Ordering :=
  let names := ["JAN", "FEB", "MAR", "APR", "MAY", "JUN", "JUL", "AUG", "SEP", "OCT", "NOV", "DEC"]
  let rank (text : Octets) : Nat :=
    let name := ((text.dropWhile CharacterClass.isBlank).take 3).map Char.toUpper
    (names.findIdx? (·.toList = name)).elim 0 (· + 1)
  compare (rank first) (rank second)

def versionRank : Option Char → Int
  | none => -1
  | some c =>
    if c.isDigit then 0
    else if c.isAlpha then c.toNat
    else if c = '~' then -2
    else c.toNat + 256

/-- The order of versions: stretches without digits and numbers in turn. -/
def versionParts : Nat → Octets → Octets → Ordering
  | 0, _, _ => .eq
  | fuel + 1, first, second =>
    if first.isEmpty && second.isEmpty then .eq
    else
      let isStretch (c? : Option Char) : Bool := c?.any fun c => !c.isDigit
      if isStretch first.head? || isStretch second.head? then
        match compare (versionRank first.head?) (versionRank second.head?) with
        | .eq => versionParts fuel first.tail second.tail
        | other => other
      else
        let digits (text : Octets) : List Char := text.takeWhile Char.isDigit
        match compare (Number.natural (digits first)) (Number.natural (digits second)) with
        | .eq =>
          versionParts fuel (first.drop (digits first).length) (second.drop (digits second).length)
        | other => other

/-- A name without its endings, each of which is a dot and letters. -/
def withoutEndings (name : Octets) : Octets :=
  let isEnding (part : Octets) : Bool := match part with
    | c :: rest => (c.isAlpha || c = '~') && rest.all fun c => c.isAlphanum || c = '~'
    | [] => false
  let parts := name.splitOn '.'
  let endings := (parts.tail.reverse.takeWhile isEnding).length
  ['.'].intercalate (parts.take (parts.length - endings))

/-- The order of names with versions. Hidden names come first, and endings count last. -/
def versions (first second : Octets) : Ordering :=
  let parts (first second : Octets) : Ordering :=
    versionParts (first.length + second.length + 1) first second
  let rank (name : Octets) : Nat :=
    if name.isEmpty then 0 else if name = ['.'] then 1 else if name = ['.', '.'] then 2
    else if name.head? = some '.' then 3 else 4
  (compare (rank first) (rank second)).then <|
    (parts (withoutEndings first) (withoutEndings second)).then (parts first second)

end TextOrder

/-! ### Sorting -/

/-- A place in a line: a field and a byte in it, with whether blanks in front are passed over. -/
structure KeyPlace where
  field : Nat
  byte : Nat
  skipsBlanks : Bool

structure SortKey where
  start : KeyPlace
  stop? : Option KeyPlace
  options : List Char

def orderOptions : List Char :=
  ['b', 'f', 'g', 'h', 'M', 'n', 'r', 'V']

/-- The rest of a line after some fields. Without a separator, blanks begin a field. -/
def afterFields (separator? : Option Char) (keepsLast : Bool) : Nat → Octets → Octets
  | 0, text => text
  | count + 1, text =>
    match separator? with
    | some separator =>
      let rest := text.dropWhile (· ≠ separator)
      afterFields separator? keepsLast count (if count = 0 && keepsLast then rest else rest.tail)
    | none =>
      let rest := (text.dropWhile CharacterClass.isBlank).dropWhile fun c =>
        !CharacterClass.isBlank c
      afterFields separator? keepsLast count rest

def SortKey.part (key : SortKey) (separator? : Option Char) (line : Octets) : Octets :=
  let skip (skips : Bool) (text : Octets) : Octets :=
    if skips then text.dropWhile CharacterClass.isBlank else text
  let from_ := (skip key.start.skipsBlanks
    (afterFields separator? false key.start.field line)).drop key.start.byte
  match key.stop? with
  | none => from_
  | some stop =>
    let after :=
      if stop.byte = 0 then afterFields separator? true (stop.field + 1) line
      else
        (skip stop.skipsBlanks (afterFields separator? false stop.field line)).drop stop.byte
    from_.take (from_.length - after.length)

def orderBy (options : List Char) (first second : Octets) : Ordering :=
  let has (letter : Char) : Bool := letter ∈ options
  let folded (text : Octets) : Octets :=
    if has 'f' then text.map Char.toUpper else text
  let order :=
    if has 'n' then TextOrder.numeric first second
    else if has 'g' then TextOrder.general first second
    else if has 'h' then TextOrder.withUnits first second
    else if has 'M' then TextOrder.months first second
    else if has 'V' then TextOrder.versions (folded first) (folded second)
    else Octets.order (folded first) (folded second)
  if has 'r' then order.swap else order

/-- Reads a place in a line: a field, and a byte in it after a point. -/
def readPlace? (lastByte : Nat) (text : Octets) : Option (Nat × Nat × Octets) :=
  let field := text.takeWhile Char.isDigit
  match text.drop field.length with
  | '.' :: rest =>
    let byte := rest.takeWhile Char.isDigit
    some (Number.natural field, Number.natural byte, rest.drop byte.length)
  | rest => if field.isEmpty then none else some (Number.natural field, lastByte, rest)

/-- Reads a key: the place where it starts, and the one where it stops after a comma. -/
def readKey (text : Octets) : Job SortKey := do
  let refuse {α : Type} : Job α :=
    Job.fail 2 ("stray character in field spec: invalid field specification ".toList ++
      Quotation.quoted text)
  let some (field, byte, rest) := readPlace? 1 text | refuse
  if field = 0 || byte = 0 then refuse
  let options := rest.takeWhile (· ∈ orderOptions)
  let start : KeyPlace := { field := field - 1, byte := byte - 1, skipsBlanks := 'b' ∈ options }
  match rest.drop options.length with
  | [] => return { start, stop? := none, options }
  | ',' :: rest =>
    let some (field, byte, rest) := readPlace? 0 rest | refuse
    let more := rest.takeWhile (· ∈ orderOptions)
    if field = 0 || more.length < rest.length then refuse
    let stop : KeyPlace := { field := field - 1, byte, skipsBlanks := 'b' ∈ more }
    return { start, stop? := some stop, options := options ++ more }
  | _ => refuse

/-- The keys in force: a key without options of its own takes the common ones. -/
def keysInForce (keys : List SortKey) (common : List Char) : List SortKey :=
  let whole : SortKey := {
    start := { field := 0, byte := 0, skipsBlanks := 'b' ∈ common }, stop? := none
    options := common }
  if keys.isEmpty then if common.all (· = 'r') then [] else [whole]
  else
    keys.map fun key =>
      if !key.options.isEmpty then key
      else
        let blanks := 'b' ∈ common
        { start := { key.start with skipsBlanks := blanks }
          stop? := key.stop?.map fun stop => { stop with skipsBlanks := blanks }
          options := common }

/-- The lines of some files, complaining about the first one that cannot be read. -/
def linesOfAll (paths : List Octets) : Job (List Octets) := do
  let load (path : Octets) : Job (List Octets) := do
    match ← Job.takeFile path with
    | .ok text => return Lines.ofText '\n' text
    | .error fault =>
      Job.fail 2
        ("cannot read: ".toList ++ Quotation.subject path ++ ": ".toList ++ Job.faultText fault)
  return (← (if paths.isEmpty then [['-']] else paths).mapM load).flatten

def firstOfRuns (isEqual : Octets → Octets → Bool) : List Octets → List Octets
  | [] => []
  | line :: lines =>
    let step : List Octets × Octets → Octets → List Octets × Octets := fun (kept, last) line =>
      if isEqual last line then (kept, last) else (line :: kept, line)
    (lines.foldl step ([line], line)).1.reverse

def firstDisorder (inOrder : Octets → Octets → Bool) : Nat → List Octets → Option (Nat × Octets)
  | number, first :: second :: rest =>
    if inOrder first second then firstDisorder inOrder (number + 1) (second :: rest)
    else some (number + 1, second)
  | _, _ => none

def sort : Job UInt8 := do
  let parsed ← Arguments.read {
    known := (orderOptions.map fun letter => { letter }) ++ [
      { letter := 'c' }, { letter := 's', long := "stable" }, { letter := 'u', long := "unique" },
      { letter := 'k', long := "key", value := .needed },
      { letter := 't', long := "field-separator", value := .needed },
      { letter := 'n', long := "numeric-sort" }, { letter := 'r', long := "reverse" },
      { letter := 'f', long := "ignore-case" }, { letter := 'V', long := "version-sort" },
      { letter := 'g', long := "general-numeric-sort" },
      { letter := 'h', long := "human-numeric-sort" }, { letter := 'M', long := "month-sort" },
      { letter := 'b', long := "ignore-leading-blanks" }]
    misuse := 2 }
  let common := (parsed.options.map (·.1)).filter (· ∈ orderOptions)
  let separator? ← match parsed.value? 't' with
    | none => pure none
    | some [c] => pure (some c)
    | some text => Job.fail 2 ("multi-character tab ".toList ++ Quotation.quoted text)
  let keys := keysInForce (← (parsed.values 'k').mapM readKey) common
  let byKeys (first second : Octets) : Ordering :=
    keys.foldl
      (fun order key =>
        order.then (orderBy key.options (key.part separator? first) (key.part separator? second)))
      .eq
  let whole (first second : Octets) : Ordering :=
    let order := Octets.order first second
    if 'r' ∈ common then order.swap else order
  let order (first second : Octets) : Ordering :=
    if keys.isEmpty then whole first second
    else if parsed.has 's' || parsed.has 'u' then byKeys first second
    else (byKeys first second).then (whole first second)
  let lines ← linesOfAll parsed.operands
  let inOrder (first second : Octets) : Bool := order first second ≠ .gt
  if parsed.has 'c' then
    match firstDisorder inOrder 1 lines with
    | none => return 0
    | some (number, line) =>
      Job.fail 1 (parsed.operands.headD ['-'] ++ ':' :: Octets.ofNat number ++
        ": disorder: ".toList ++ line)
  let sorted := lines.mergeSort inOrder
  Job.print (Lines.toText '\n' (if parsed.has 'u' then
    firstOfRuns (fun first second => order first second = .eq) sorted else sorted))
  return 0

/-! ### Repeated lines -/

def runs (isEqual : Octets → Octets → Bool) (lines : List Octets) : List (List Octets) :=
  let step : List (List Octets) → Octets → List (List Octets) := fun done line =>
    match done with
    | run :: earlier =>
      if run.head?.any (isEqual · line) then (run ++ [line]) :: earlier else [line] :: done
    | [] => [[line]]
  (lines.foldl step []).reverse

/-- Prints the lines of its input without repetitions. -/
def uniq : Job UInt8 := do
  let parsed ← Arguments.read { known := [
    { letter := 'c', long := "count" }, { letter := 'd', long := "repeated" },
    { letter := '\x04', long := "group" }, { letter := 'u', long := "unique" },
    { letter := 'i', long := "ignore-case" },
    { letter := 'f', long := "skip-fields", value := .needed }] }
  let fields ← match parsed.value? 'f' with
    | none => pure 0
    | some text =>
      match Number.decimal? text with
      | some count => pure count.toNat
      | none => Job.fail 1 (text ++ ": invalid number of fields to skip".toList)
  let key (line : Octets) : Octets :=
    let rest := afterFields none false fields line
    if parsed.has 'i' then rest.map Char.toUpper else rest
  let path := parsed.operands.headD ['-']
  match ← Job.takeFile path with
  | .error fault => Job.fail 1 (Quotation.subject path ++ ": ".toList ++ Job.faultText fault)
  | .ok text =>
    let all := runs (fun first second => key first = key second) (Lines.ofText '\n' text)
    if parsed.has '\x04' then Job.print (['\n'].intercalate (all.map (Lines.toText '\n')))
    else
      let chosen := all.filter fun run =>
        (!parsed.has 'd' || 1 < run.length) && (!parsed.has 'u' || run.length ≤ 1)
      Job.print <| Lines.toText '\n' <| chosen.map fun run =>
        let number := Octets.ofNat run.length
        let front := if parsed.has 'c' then
            List.replicate (7 - number.length) ' ' ++ number ++ [' ']
          else []
        front ++ run.headD []
    return 0

end VersionGate.Sandbox.Utility
