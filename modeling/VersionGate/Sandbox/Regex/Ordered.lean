import VersionGate.Sandbox.Regex.Reader

/-!
Regular expressions whose ways are tried in order.

The first way that leads to the end of the whole expression is the match, however long it is. So an
expression is followed together with what comes after it: a way that fails later is given up, and the
next one is tried. Of such expressions only the forms that searches use can be written: sets, repetitions,
groups, and conditions on what stands around a place.
-/

namespace VersionGate.Sandbox

inductive OrderedRegex where
  | nothing
  | octet (accepts : Char → Bool)
  | place (holds : Option Char → Octets → Bool)
  | sequence (first second : OrderedRegex)
  | either (first second : OrderedRegex)
  | times (least : Nat) (most : Option Nat) (isEager : Bool) (item : OrderedRegex)
  | group (number : Nat) (item : OrderedRegex)
  | ahead (isWanted : Bool) (item : OrderedRegex)
  | behind (isWanted : Bool) (item : OrderedRegex)
  | opening

namespace OrderedRegex

open Regex (Way Match)

abbrev Finish := Way → Option Way

/-- Repeats a step: at least and at most so many times. A step that leads nowhere ends an unbounded
repetition. -/
def repeated (step : Way → Finish → Option Way) (isEager : Bool) :
    Nat → Nat → Option Nat → Way → Finish → Option Way
  | 0, _, _, way, finish => finish way
  | fuel + 1, least, most?, way, finish =>
    let again (next : Way) : Option Way :=
      if next.position = way.position && least = 0 && most?.isNone then finish next
      else repeated step isEager fuel (least - 1) (most?.map (· - 1)) next finish
    if most? = some 0 then finish way
    else if 0 < least then step way again
    else if isEager then (step way again).or (finish way)
    else (finish way).or (step way again)

def wayAt (text : Octets) (position : Nat) (groups : List (Nat × Nat × Nat)) : Way :=
  { position, before := if position = 0 then none else text[position - 1]?
    rest := text.drop position, groups }

def follow (text : Octets) : OrderedRegex → Way → Finish → Option Way
  | nothing, way, finish => finish way
  | octet accepts, way, finish =>
    match way.rest with
    | [] => none
    | c :: rest =>
      if accepts c then
        finish { way with position := way.position + 1, before := some c, rest }
      else none
  | place holds, way, finish => if holds way.before way.rest then finish way else none
  | sequence first second, way, finish =>
    follow text first way fun next => follow text second next finish
  | either first second, way, finish =>
    (follow text first way finish).or (follow text second way finish)
  | times least most? isEager item, way, finish =>
    repeated (follow text item) isEager (least + way.rest.length + 2) least most? way finish
  | group number item, way, finish =>
    follow text item way fun next =>
      finish { next with groups :=
        (number, way.position, next.position) :: next.groups.filter (·.1 ≠ number) }
  | ahead isWanted item, way, finish =>
    if (follow text item way some).isSome == isWanted then finish way else none
  | behind isWanted item, way, finish =>
    let endsHere (length : Nat) : Bool :=
      (follow text item (wayAt text (way.position - length) way.groups) fun next =>
        if next.position = way.position then some next else none).isSome
    if (List.range (way.position + 1)).any endsHere == isWanted then finish way else none
  | opening, way, finish =>
    finish { way with groups := (0, way.position, way.position) :: way.groups.filter (·.1 ≠ 0) }

def matchAt (regex : OrderedRegex) (text : Octets) (way : Way) : Option Match :=
  (follow text regex way some).map fun found =>
    { start := ((found.groups.lookup 0).map (·.1)).getD way.position
      stop := found.position, groups := found.groups }

def findFrom (regex : OrderedRegex) (text : Octets) (position : Nat) (before : Option Char) :
    Octets → Option Match
  | [] => regex.matchAt text { position, before, rest := [] }
  | c :: rest =>
    (regex.matchAt text { position, before, rest := c :: rest }).or
      (findFrom regex text (position + 1) (some c) rest)

def find (regex : OrderedRegex) (text : Octets) (start : Nat := 0) : Option Match :=
  let way := wayAt text start []
  findFrom regex text start way.before way.rest

def findAll (regex : OrderedRegex) (text : Octets) : List Match :=
  let rec go : Nat → Nat → List Match
    | 0, _ => []
    | fuel + 1, position =>
      match regex.find text position with
      | none => []
      | some found =>
        if found.start < found.stop then found :: go fuel found.stop
        else if found.stop < text.length then go fuel (max found.stop position + 1)
        else []
  go (text.length + 1) 0

/-! ### How expressions are written -/

/-- A reader of an expression: what is left, and how many groups have been opened. -/
structure Reader where
  rest : Octets
  opened : Nat := 0

abbrev Read := StateT Reader (Except String)

namespace Read

def rest : Read Octets := return (← get).rest

def goOn (rest : Octets) : Read Unit :=
  modify fun reader => { reader with rest }

/-- Passes over a text if it stands here; tells whether it does. -/
def passes (text : String) : Read Bool := do
  let rest ← Read.rest
  if text.toList.isPrefixOf rest then
    goOn (rest.drop text.length)
    return true
  return false

end Read

def classOf? (letter : Char) : Option (Char → Bool) :=
  match letter with
  | 'd' => some Char.isDigit
  | 'D' => some fun c => !c.isDigit
  | 'w' => some Regex.isWord
  | 'W' => some fun c => !Regex.isWord c
  | 's' => some CharacterClass.isSpace
  | 'S' => some fun c => !CharacterClass.isSpace c
  | _ => none

def readMembers : Nat → Bool → Read (Char → Bool)
  | 0, _ => throw "missing terminating ] for character class"
  | fuel + 1, isFirst => do
    match ← Read.rest with
    | [] => throw "missing terminating ] for character class"
    | '\\' :: letter :: rest =>
      Read.goOn rest
      let belongs := (classOf? letter).getD (· = letter)
      let others ← readMembers fuel false
      return fun c => belongs c || others c
    | first :: '-' :: last :: rest =>
      if first = ']' && !isFirst then
        Read.goOn ('-' :: last :: rest)
        return fun _ => false
      else if last = ']' then
        Read.goOn ('-' :: last :: rest)
        let others ← readMembers fuel false
        return fun c => c = first || others c
      else
        if last < first then throw "range out of order in character class"
        Read.goOn rest
        let others ← readMembers fuel false
        return fun c => (first ≤ c && c ≤ last) || others c
    | first :: rest =>
      Read.goOn rest
      if first = ']' && !isFirst then return fun _ => false
      let others ← readMembers fuel false
      return fun c => c = first || others c

def readSet (ignoresCase : Bool) : Read (Char → Bool) := do
  let negated ← Read.passes "^"
  let rest ← Read.rest
  let accepts ← readMembers (rest.length + 1) true
  let cased := if ignoresCase then Regex.anyCase accepts else accepts
  return fun c => cased c != negated

/-- What a backslash and a letter stand for; nothing if they have no meaning. -/
def escape? (exactly : Char → OrderedRegex) (letter : Char) : Option OrderedRegex :=
  let atWord (holds : Bool → Bool → Bool) : OrderedRegex :=
    .place fun before rest => holds (Regex.isInWord before) (Regex.isInWord rest.head?)
  match classOf? letter with
  | some belongs => some (.octet belongs)
  | none =>
    match letter with
    | 'b' => some (atWord (· != ·))
    | 'B' => some (atWord (· == ·))
    | 'K' => some .opening
    | 't' => some (exactly '\t')
    | _ => if letter.isAlphanum then none else some (exactly letter)

/-- A count in braces at the start of a text: the least and the greatest number, and what comes after
it. -/
def count? (text : Octets) : Option (Nat × Option Nat × Octets) :=
  match text with
  | '\x7b' :: rest =>
    let inside := rest.takeWhile (· ≠ '\x7d')
    let rest := rest.drop (inside.length + 1)
    let isNumber (digits : Octets) : Bool := !digits.isEmpty && digits.all Char.isDigit
    match inside.splitOn ',' with
    | [count] =>
      if isNumber count then some (Number.natural count, some (Number.natural count), rest) else none
    | [least, []] => if isNumber least then some (Number.natural least, none, rest) else none
    | [least, most] =>
      if isNumber least && isNumber most then
        some (Number.natural least, some (Number.natural most), rest)
      else none
    | _ => none
  | _ => none

def readRepetition (item : OrderedRegex) : Read OrderedRegex := do
  let repeated (least : Nat) (most? : Option Nat) (rest : Octets) : Read OrderedRegex := do
    Read.goOn rest
    let isRare ← Read.passes "?"
    return .times least most? (!isRare) item
  match ← Read.rest with
  | '*' :: rest => repeated 0 none rest
  | '+' :: rest => repeated 1 none rest
  | '?' :: rest => repeated 0 (some 1) rest
  | text =>
    match count? text with
    | some (least, most?, rest) => repeated least most? rest
    | none => return item

def readOpening : Read (OrderedRegex → OrderedRegex) := do
  if ← Read.passes "?:" then return id
  else if ← Read.passes "?=" then return .ahead true
  else if ← Read.passes "?!" then return .ahead false
  else if ← Read.passes "?<=" then return .behind true
  else if ← Read.passes "?<!" then return .behind false
  else if ← Read.passes "?" then throw "unrecognized character after (? or (?-"
  else
    let number := (← get).opened + 1
    modify fun reader => { reader with opened := number }
    return .group number

mutual

def readEither (ignoresCase : Bool) : Nat → Read OrderedRegex
  | 0 => return .nothing
  | fuel + 1 => do
    let first ← readRun ignoresCase fuel
    if ← Read.passes "|" then return .either first (← readEither ignoresCase fuel)
    else return first

def readRun (ignoresCase : Bool) : Nat → Read OrderedRegex
  | 0 => return .nothing
  | fuel + 1 => do
    match ← Read.rest with
    | [] => return .nothing
    | '|' :: _ => return .nothing
    | ')' :: _ => return .nothing
    | c :: rest =>
      if c ∈ ['*', '+', '?'] then throw "quantifier does not follow a repeatable item"
      Read.goOn rest
      let item ← readRepetition (← readItem ignoresCase fuel c)
      return .sequence item (← readRun ignoresCase fuel)

def readItem (ignoresCase : Bool) : Nat → Char → Read OrderedRegex
  | 0, _ => return .nothing
  | fuel + 1, c => do
    let exactly (c : Char) : OrderedRegex :=
      let accepts (d : Char) : Bool := d = c
      .octet (if ignoresCase then Regex.anyCase accepts else accepts)
    match c with
    | '^' => return .place fun before _ => before.isNone
    | '$' => return .place fun _ rest => rest.isEmpty
    | '.' => return .octet (· ≠ '\n')
    | '[' => return .octet (← readSet ignoresCase)
    | '\\' =>
      match ← Read.rest with
      | [] => throw "\\ at end of pattern"
      | letter :: rest =>
        Read.goOn rest
        match escape? exactly letter with
        | some item => return item
        | none => throw "unrecognized character follows \\"
    | '(' =>
      let make ← readOpening
      let inside ← readEither ignoresCase fuel
      if !(← Read.passes ")") then throw "missing closing parenthesis"
      return make inside
    | _ => return exactly c

end

def read (ignoresCase : Bool) (text : Octets) : Except String OrderedRegex := do
  let body : Read OrderedRegex := do
    let regex ← readEither ignoresCase (8 * text.length + 8)
    if !(← Read.rest).isEmpty then throw "unmatched closing parenthesis"
    return regex
  return (← body.run { rest := text }).1

end OrderedRegex

end VersionGate.Sandbox
