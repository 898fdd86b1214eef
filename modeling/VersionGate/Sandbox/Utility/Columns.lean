import VersionGate.Sandbox.Number
import VersionGate.Sandbox.Utility.Arguments

namespace VersionGate.Sandbox.Utility

/-- Uses the text of each file, or of the input, and complains about those that cannot be read. -/
def eachText (paths : List Octets) (use : Octets → Octets → Job Unit) : Job UInt8 := do
  let step (code : UInt8) (path : Octets) : Job UInt8 := do
    match ← Job.takeFile path with
    | .error fault =>
      Job.complain (Quotation.subject path ++ ": ".toList ++ Job.faultText fault)
      return 1
    | .ok text =>
      use path text
      return code
  (if paths.isEmpty then [['-']] else paths).foldlM step 0

/-! ### Counts -/

structure Counts where
  lines : Nat := 0
  words : Nat := 0
  bytes : Nat := 0
  width : Nat := 0

namespace Counts

def columnAfter (column : Nat) (c : Char) : Nat :=
  if c = '\n' || c = '\r' || c = '\x0c' then 0
  else if c = '\t' then column + 8 - column % 8
  else if CharacterClass.isPrintable c then column + 1
  else column

def ofText (text : Octets) : Counts :=
  let step : Counts × Bool × Nat → Char → Counts × Bool × Nat := fun (counts, inWord, column) c =>
    let isSpace := CharacterClass.isSpace c
    let column := columnAfter column c
    ({ lines := if c = '\n' then counts.lines + 1 else counts.lines
       words := if !isSpace && !inWord then counts.words + 1 else counts.words
       bytes := counts.bytes + 1
       width := max counts.width column }, !isSpace, column)
  (text.foldl step ({}, false, 0)).1

def add (first second : Counts) : Counts where
  lines := first.lines + second.lines
  words := first.words + second.words
  bytes := first.bytes + second.bytes
  width := max first.width second.width

def chosen (counts : Counts) (letters : List Char) : List Nat :=
  (if 'l' ∈ letters then [counts.lines] else []) ++ (if 'w' ∈ letters then [counts.words] else []) ++
    (if 'm' ∈ letters then [counts.bytes] else []) ++
    (if 'c' ∈ letters then [counts.bytes] else []) ++
    (if 'L' ∈ letters then [counts.width] else [])

end Counts

/-- The least width of the columns of counts: seven for what is no document. -/
def countWidth (paths : List Octets) (columns : Nat) : Job Nat := do
  if paths.length = 1 && columns = 1 then return 1
  let width (path : Octets) : Job Nat := do
    match ← Job.find path with
    | .ok (_, .document content _) => return (toString content.length).length
    | _ => return 7
  return (← paths.mapM width).foldl max 1

def wc : Job UInt8 := do
  let parsed ← Arguments.read { known := [
    { letter := 'c', long := "bytes" }, { letter := 'm', long := "chars" },
    { letter := 'l', long := "lines" }, { letter := 'w', long := "words" },
    { letter := 'L', long := "max-line-length" }] }
  let asked := ['l', 'w', 'm', 'c', 'L'].filter parsed.has
  let letters := if asked.isEmpty then ['l', 'w', 'c'] else asked
  let paths := if parsed.operands.isEmpty then [['-']] else parsed.operands
  let width ← countWidth paths letters.length
  let show_ (counts : Counts) (name : Octets) : Job PUnit := do
    let cells := (counts.chosen letters).map fun count =>
      let digits := Octets.ofNat count
      List.replicate (width - digits.length) ' ' ++ digits
    Job.printLine ([' '].intercalate (cells ++ if name.isEmpty then [] else [name]))
  let step (state : UInt8 × Counts) (path : Octets) : Job (UInt8 × Counts) := do
    let (code, total) := state
    let name := if parsed.operands.isEmpty then [] else path
    match ← Job.takeFile path with
    | .error fault =>
      Job.complain (Quotation.subject path ++ ": ".toList ++ Job.faultText fault)
      if fault = .isDirectory then show_ {} name
      return (1, total)
    | .ok text =>
      let counts := Counts.ofText text
      show_ counts name
      return (code, total.add counts)
  let (code, total) ← paths.foldlM step (0, {})
  if 1 < paths.length then show_ total "total".toList
  return code

/-! ### Parts of lines -/

/-- A range of numbers; without an end it goes on. -/
structure NumberRange where
  first : Nat
  last : Option Nat

def NumberRange.contains (range : NumberRange) (number : Nat) : Bool :=
  range.first ≤ number && range.last.all (number ≤ ·)

/-- Reads one item of a list of numbers: a number, or a range with a dash. -/
def readRange (item : Octets) : Job NumberRange := do
  let digits := item.takeWhile Char.isDigit
  let first := if digits.isEmpty then 1 else Number.natural digits
  if first = 0 then Job.misuse 1 "fields are numbered from 1".toList
  match item.drop digits.length with
  | [] => return ⟨first, some first⟩
  | '-' :: last =>
    if last.all Char.isDigit then
      return ⟨first, if last.isEmpty then none else some (Number.natural last)⟩
    else Job.misuse 1 "invalid field range".toList
  | wrong => Job.misuse 1 ("invalid field value ".toList ++ Quotation.quoted wrong)

/-- The chosen fields of a line; a line without delimiters is kept or left out as a whole. -/
def cutFields (ranges : List NumberRange) (delimiter : Char) (onlyDelimited : Bool)
    (between line : Octets) : Option Octets :=
  if delimiter ∉ line then if onlyDelimited then none else some line
  else
    let chosen := ((line.splitOn delimiter).zipIdx 1).filter fun (_, number) =>
      ranges.any (·.contains number)
    some (between.intercalate (chosen.map (·.1)))

def cut : Job UInt8 := do
  let parsed ← Arguments.read { known := [
    { letter := 'b', long := "bytes", value := .needed },
    { letter := 'c', long := "characters", value := .needed },
    { letter := 'f', long := "fields", value := .needed },
    { letter := 'd', long := "delimiter", value := .needed },
    { letter := 's', long := "only-delimited" },
    { letter := '\x04', long := "output-delimiter", value := .needed }] }
  let delimiter ← match parsed.value? 'd' with
    | none => pure '\t'
    | some [c] => pure c
    | some _ => Job.misuse 1 "the delimiter must be a single character".toList
  match parsed.options.filter (·.1 ∈ ['b', 'c', 'f']) with
  | [] => Job.misuse 1 "you must specify a list of bytes, characters, or fields".toList
  | _ :: _ :: _ => Job.misuse 1 "only one list may be specified".toList
  | [(letter, list)] =>
    let ranges ← (list.splitOn ',').mapM readRange
    let between := (parsed.value? '\x04').getD [delimiter]
    let part (line : Octets) : Option Octets :=
      if letter = 'f' then cutFields ranges delimiter (parsed.has 's') between line
      else
        some (((line.zipIdx 1).filter fun (_, number) => ranges.any (·.contains number)).map (·.1))
    eachText parsed.operands fun _ text =>
      Job.print (Lines.toText '\n' ((Lines.ofText '\n' text).filterMap part))

/-! ### Copies -/

def tee : Job UInt8 := do
  let parsed ← Arguments.read { known := [
    { letter := 'a', long := "append" }, { letter := 'i', long := "ignore-interrupts" }] }
  let text := match ← Job.takeInput with
    | .ok text => text
    | .error _ => []
  Job.print text
  let access : Access := if parsed.has 'a' then .append else .replace
  let step (code : UInt8) (path : Octets) : Job UInt8 := do
    match ← Job.putFile access path text with
    | .ok () => return code
    | .error fault =>
      Job.complain (Quotation.subject path ++ ": ".toList ++ Job.faultText fault)
      return 1
  parsed.operands.foldlM step 0

end VersionGate.Sandbox.Utility
