import VersionGate.Sandbox.Regex.Ordered
import VersionGate.Sandbox.Utility.Arguments

namespace VersionGate.Sandbox.Utility

/-- What is searched for: the longest match, or the first one in an order. -/
inductive SearchPattern where
  | longest (regex : Regex)
  | ordered (regex : OrderedRegex)

namespace SearchPattern

def isIn (line : Octets) : SearchPattern → Bool
  | longest regex => (regex.find line).isSome
  | ordered regex => (regex.find line).isSome

def findAll (line : Octets) : SearchPattern → List Regex.Match
  | longest regex => regex.findAll line
  | ordered regex => regex.findAll line

end SearchPattern

structure SearchStyle where
  inverted : Bool
  counts : Bool
  numbers : Bool
  offsets : Bool
  onlyMatches : Bool
  names : Bool
  quiet : Bool
  before : Nat
  after : Nat
  most? : Option Nat

structure SearchedLine where
  number : Nat
  offset : Nat
  text : Octets
  selected : Bool

/-- The lines of a text, each with whether it is selected. After enough selected lines no more are. -/
def searchedLines (style : SearchStyle) (pattern : SearchPattern) (text : Octets) :
    List SearchedLine :=
  let step : List SearchedLine × Nat × Nat × Nat → Octets → List SearchedLine × Nat × Nat × Nat :=
    fun (found, number, offset, count) line =>
      let bare := if line.getLast? = some '\n' then line.dropLast else line
      let isEnough := style.most?.any (· ≤ count)
      let selected := !isEnough && pattern.isIn bare != style.inverted
      ({ number, offset, text := bare, selected } :: found, number + 1, offset + line.length,
        if selected then count + 1 else count)
  ((Lines.withMarks '\n' text).foldl step ([], 1, 0, 0)).1.reverse

def searchFront (style : SearchStyle) (name : Octets) (line : SearchedLine) (sign : Char)
    (offset : Nat) : Octets :=
  (if style.names then name ++ [sign] else []) ++
    (if style.numbers then Octets.ofNat line.number ++ [sign] else []) ++
    (if style.offsets then Octets.ofNat offset ++ [sign] else [])

/-- A line as it is shown: found lines after colons, the lines around them after dashes. -/
def shownLine (style : SearchStyle) (pattern : SearchPattern) (name : Octets)
    (line : SearchedLine) : Octets :=
  if style.onlyMatches then
    if !line.selected || style.inverted then []
    else
      (pattern.findAll line.text).flatMap fun found =>
        let part := found.part line.text 0
        if part.isEmpty then []
        else
          searchFront style name line ':' (line.offset + found.start) ++ part ++ ['\n']
  else
    let sign := if line.selected then ':' else '-'
    searchFront style name line sign line.offset ++ line.text ++ ['\n']

/-- The lines that are shown: the selected ones and those around them. Groups that do not touch are
separated. -/
def shownLines (style : SearchStyle) (pattern : SearchPattern) (name : Octets)
    (lines : List SearchedLine) : Octets :=
  let selected := (lines.filter (·.selected)).map (·.number)
  if style.before = 0 && style.after = 0 then
    (lines.filter (·.selected)).flatMap (shownLine style pattern name)
  else
    let isNear (line : SearchedLine) : Bool := selected.any fun number =>
      number ≤ line.number + style.before && line.number ≤ number + style.after
    let step : List Octets × Option Nat → SearchedLine → List Octets × Option Nat :=
      fun (shown, last?) line =>
        let gap := last?.any (· + 1 < line.number)
        let shown := if gap then ['-', '-', '\n'] :: shown else shown
        (shownLine style pattern name line :: shown, some line.number)
    ((lines.filter isNear).foldl step ([], none)).1.reverse.flatten

/-- Searches one file; tells whether something was selected. -/
def searchText (style : SearchStyle) (pattern : SearchPattern) (path text : Octets) : Job Bool := do
  let name := if path = ['-'] then "(standard input)".toList else path
  let lines := searchedLines style pattern text
  let count := (lines.filter (·.selected)).length
  if style.quiet then return 0 < count
  if style.counts then
    Job.printLine ((if style.names then name ++ [':'] else []) ++ Octets.ofNat count)
  else Job.print (shownLines style pattern name lines)
  return 0 < count

def narrowed (wholeLine wholeWord : Bool) (regex : Regex) : Regex :=
  if wholeLine then
    .sequence (.place fun before _ => before.isNone)
      (.sequence regex (.place fun _ after => after.isNone))
  else if wholeWord then
    .sequence (.place fun before _ => !Regex.isInWord before)
      (.sequence regex (.place fun _ after => !Regex.isInWord after))
  else regex

def fixed (ignoresCase : Bool) (text : Octets) : Regex :=
  text.foldr
    (fun c regex =>
      let accepts (d : Char) : Bool := c = d
      .sequence (.octet (if ignoresCase then Regex.anyCase accepts else accepts)) regex)
    .nothing

def searchGrammar : Arguments.Grammar where
  known := ("0123456789".toList.map fun letter => { letter }) ++ [
    { letter := 'e', long := "regexp", value := .needed },
    { letter := 'm', long := "max-count", value := .needed },
    { letter := 'A', long := "after-context", value := .needed },
    { letter := 'B', long := "before-context", value := .needed },
    { letter := 'C', long := "context", value := .needed },
    { letter := 'E', long := "extended-regexp" }, { letter := 'F', long := "fixed-strings" },
    { letter := 'P', long := "perl-regexp" },
    { letter := 'i', long := "ignore-case" }, { letter := 'v', long := "invert-match" },
    { letter := 'w', long := "word-regexp" }, { letter := 'x', long := "line-regexp" },
    { letter := 'c', long := "count" }, { letter := 'n', long := "line-number" },
    { letter := 'o', long := "only-matching" }, { letter := 'b', long := "byte-offset" },
    { letter := 'q', long := "quiet" }, { letter := 's', long := "no-messages" },
    { letter := 'h', long := "no-filename" }, { letter := 'H', long := "with-filename" }]
  misuse := 2
  usage := some "[OPTION]... PATTERNS [FILE]..."
  package := "GNU grep"
  version := "3.11"

def askLines (text : Octets) : Job Nat := do
  match Number.decimal? text with
  | some number =>
    if 0 ≤ number then return number.toNat
    else Job.fail 2 (text ++ ": invalid context length argument".toList)
  | none => Job.fail 2 (text ++ ": invalid context length argument".toList)

/-- The texts of the patterns, from options or else the first operand, and the files. -/
def searchPatterns (parsed : Arguments.Parsed) : Job (List Octets × List Octets) := do
  match parsed.values 'e', parsed.operands with
  | [], [] =>
    Job.sayError ("Usage: ".toList ++ (← Job.call).name ++ " [OPTION]... PATTERNS [FILE]...\n".toList)
    Job.sayHint
    Job.exit 2
  | [], text :: files => return (text.splitOn '\n', files)
  | texts, files => return (texts.flatMap (·.splitOn '\n'), files)

def searchRegex (parsed : Arguments.Parsed) (patterns : List Octets) (kind? : Option Char)
    (ignoresCase : Bool) : Job Regex := do
  let extended := kind? = some 'E'
  let read (pattern : Octets) : Job Regex := do
    if kind? = some 'F' then return fixed ignoresCase pattern
    match Regex.read { extended, ignoresCase } pattern with
    | .ok (regex, _) => return regex
    | .error fault => Job.fail 2 fault.message.toList
  match ← patterns.mapM read with
  | [] => return .octet fun _ => false
  | regex :: others =>
    return narrowed (parsed.has 'x') (parsed.has 'w') (others.foldl Regex.either regex)

/-- The expression with ordered ways for some patterns, of which there may be only one. -/
def orderedRegex (patterns : List Octets) (ignoresCase : Bool) : Job OrderedRegex := do
  match patterns with
  | [pattern] =>
    match OrderedRegex.read ignoresCase pattern with
    | .ok regex => return regex
    | .error problem => Job.fail 2 problem.toList
  | _ => Job.fail 2 "the -P option only supports a single pattern".toList

def grep : Job UInt8 := do
  let parsed ← Arguments.read searchGrammar
  let (patterns, files) ← searchPatterns parsed
  let kinds := (parsed.options.map (·.1)).filter (· ∈ ['E', 'F', 'P'])
  if 1 < kinds.eraseDups.length then Job.fail 2 "conflicting matchers specified".toList
  let pattern : SearchPattern ←
    if kinds.head? = some 'P' then
      SearchPattern.ordered <$> orderedRegex patterns (parsed.has 'i')
    else SearchPattern.longest <$> searchRegex parsed patterns kinds.head? (parsed.has 'i')
  let digits := (parsed.options.filter (·.1.isDigit)).map (·.1)
  let around? := (parsed.value? 'C').or (if digits.isEmpty then none else some digits)
  let count (text? : Option Octets) : Job (Option Nat) := text?.mapM askLines
  let files := if files.isEmpty then [['-']] else files
  let style : SearchStyle := {
    inverted := parsed.has 'v', counts := parsed.has 'c', numbers := parsed.has 'n'
    offsets := parsed.has 'b', onlyMatches := parsed.has 'o', quiet := parsed.has 'q'
    names := match parsed.last? ['h', 'H'] with
      | some letter => letter = 'H'
      | none => 1 < files.length
    before := (← count ((parsed.value? 'B').or around?)).getD 0
    after := (← count ((parsed.value? 'A').or around?)).getD 0
    most? := ← count (parsed.value? 'm') }
  let step (state : Bool × Bool) (path : Octets) : Job (Bool × Bool) := do
    let (isFound, isFaulty) := state
    match ← Job.takeFile path with
    | .error fault =>
      if !parsed.has 's' then Job.complain (path ++ ": ".toList ++ Job.faultText fault)
      return (isFound, true)
    | .ok text => return (isFound || (← searchText style pattern path text), isFaulty)
  let (isFound, isFaulty) ← files.foldlM step (false, false)
  if isFaulty && !(style.quiet && isFound) then return 2
  return if isFound then 0 else 1

end VersionGate.Sandbox.Utility
