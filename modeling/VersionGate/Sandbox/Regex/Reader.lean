import VersionGate.Sandbox.CharacterClass
import VersionGate.Sandbox.Number
import VersionGate.Sandbox.Regex.Basic

/-!
How regular expressions are written.

In basic expressions, groups, counts and alternatives are written with a backslash; in extended ones
without. A star, or an anchor in a basic expression, has its meaning only in some places.
-/

namespace VersionGate.Sandbox.Regex

structure Dialect where
  extended : Bool := false
  ignoresCase : Bool := false

inductive Fault where
  | unfinished
  | bracket
  | parenthesis
  | closing
  | brace
  | count
  | range
  | characterClass
  | repetition
  | backslash
  | backReference
  | size
deriving DecidableEq

def Fault.message : Fault → String
  | unfinished => "Invalid regular expression"
  | bracket => "Unmatched [, [^, [:, [., or [="
  | parenthesis => "Unmatched ( or \\("
  | closing => "Unmatched ) or \\)"
  | brace => "Unmatched \\\x7b"
  | count => "Invalid content of \\\x7b\\\x7d"
  | range => "Invalid range end"
  | characterClass => "Invalid character class name"
  | repetition => "Invalid preceding regular expression"
  | backslash => "Trailing backslash"
  | backReference => "Invalid back reference"
  | size => "Regular expression too big"

/-- A reader of an expression: the rest of the text, how many groups have been opened, and which have been
closed. -/
structure Reader where
  rest : Octets
  opened : Nat := 0
  closed : List Nat := []

abbrev Read := StateT Reader (Except Fault)

inductive Token where
  | plain (c : Char)
  | any
  | opening
  | closing
  | alternative
  | star
  | plus
  | question
  | count
  | lineStart
  | lineEnd
  | bracket
  | again (number : Nat)
  | octets (accepts : Char → Bool)
  | place (holds : Option Char → Option Char → Bool)
  | backslash
  | finish

def isWord (c : Char) : Bool := c.isAlphanum || c = '_'

def isInWord (c? : Option Char) : Bool := c?.any isWord

def escape (c : Char) : Token :=
  match c with
  | 'w' => .octets isWord
  | 'W' => .octets fun c => !isWord c
  | 's' => .octets CharacterClass.isSpace
  | 'S' => .octets fun c => !CharacterClass.isSpace c
  | 'b' => .place fun before after => isInWord before != isInWord after
  | 'B' => .place fun before after => isInWord before == isInWord after
  | '<' => .place fun before after => !isInWord before && isInWord after
  | '>' => .place fun before after => isInWord before && !isInWord after
  | '\x60' => .place fun before _ => before.isNone
  | '\'' => .place fun _ after => after.isNone
  | _ => if '1' ≤ c && c ≤ '9' then .again (c.toNat - '0'.toNat) else .plain c

/-- The token at the start of a text, and what comes after it; whether a branch starts here decides on
anchors. -/
def token (dialect : Dialect) (starts : Bool) : Octets → Token × Octets
  | [] => (.finish, [])
  | '\\' :: rest =>
    match rest with
    | [] => (.backslash, [])
    | c :: rest =>
      if dialect.extended then (escape c, rest)
      else
        match c with
        | '(' => (.opening, rest)
        | ')' => (.closing, rest)
        | '|' => (.alternative, rest)
        | '\x7b' => (.count, rest)
        | '+' => (.plus, rest)
        | '?' => (.question, rest)
        | _ => (escape c, rest)
  | '.' :: rest => (.any, rest)
  | '[' :: rest => (.bracket, rest)
  | '*' :: rest => (.star, rest)
  | '^' :: rest => if dialect.extended || starts then (.lineStart, rest) else (.plain '^', rest)
  | '$' :: rest =>
    let ends := rest.isEmpty || "\\)".toList.isPrefixOf rest || "\\|".toList.isPrefixOf rest
    if dialect.extended || ends then (.lineEnd, rest) else (.plain '$', rest)
  | c :: rest =>
    if dialect.extended then
      match c with
      | '(' => (.opening, rest)
      | ')' => (.closing, rest)
      | '|' => (.alternative, rest)
      | '\x7b' => (.count, rest)
      | '+' => (.plus, rest)
      | '?' => (.question, rest)
      | _ => (.plain c, rest)
    else (.plain c, rest)

/-! ### Sets in brackets -/

inductive Element where
  | single (c : Char)
  | named (belongs : Char → Bool)

def readElement : Octets → Except Fault (Element × Octets)
  | [] => .error .bracket
  | '[' :: ':' :: rest =>
    let name := rest.takeWhile (· ≠ ':')
    match rest.drop name.length, CharacterClass.ofName? name with
    | ':' :: ']' :: rest, some belongs => .ok (.named belongs, rest)
    | _ :: _, _ => .error .characterClass
    | [], _ => .error .bracket
  | c :: rest => .ok (.single c, rest)

def readMembers : Nat → Bool → Octets → Except Fault ((Char → Bool) × Octets)
  | 0, _, _ => .error .bracket
  | fuel + 1, isFirst, text => do
    if text.head? = some ']' && !isFirst then return (fun _ => false, text.tail)
    if text.head? = some '-' && !isFirst && text.tail.head? ≠ some ']' then throw .range
    let (element, rest) ← readElement text
    match element with
    | .named belongs =>
      let (others, rest) ← readMembers fuel false rest
      return (fun c => belongs c || others c, rest)
    | .single first =>
      match rest with
      | '-' :: c :: _ =>
        if c = ']' then
          let (others, rest) ← readMembers fuel false rest
          return (fun c => c = first || others c, rest)
        else
          match ← readElement rest.tail with
          | (.named _, _) => throw .range
          | (.single last, rest) =>
            if last < first then throw .range
            let (others, rest) ← readMembers fuel false rest
            return (fun c => (first ≤ c && c ≤ last) || others c, rest)
      | _ =>
        let (others, rest) ← readMembers fuel false rest
        return (fun c => c = first || others c, rest)

def readSet (text : Octets) : Except Fault ((Char → Bool) × Octets) := do
  let negated := text.head? = some '^'
  let body := if negated then text.tail else text
  if body.isEmpty then throw .unfinished
  let (accepts, rest) ← readMembers (body.length + 1) true body
  return (fun c => accepts c != negated, rest)

/-! ### Counts -/

def countLimit : Nat := 32767

/-- A number in a count: nothing, digits, or something else. -/
def number? (text : Octets) : Except Unit (Option Nat) :=
  if text.isEmpty then .ok none
  else if text.all Char.isDigit then .ok (some (Number.natural text))
  else .error ()

def readCount (extended : Bool) (text : Octets) :
    Except Fault (Nat × Option Nat × Octets) := do
  let close : Octets := if extended then ['\x7d'] else ['\\', '\x7d']
  let rec body : Octets → Octets → Option (Octets × Octets)
    | _, [] => none
    | read, c :: rest =>
      if close.isPrefixOf (c :: rest) then some (read.reverse, (c :: rest).drop close.length)
      else body (c :: read) rest
  match body [] text with
  | none => throw .brace
  | some (inside, rest) =>
    let least := inside.takeWhile (· ≠ ',')
    let hasComma := least.length < inside.length
    let most := inside.drop (least.length + 1)
    match number? least, number? most with
    | .ok least?, .ok most? =>
      if least?.isNone && !hasComma then throw .count
      let least := least?.getD 0
      let most? := if hasComma then most? else some least
      if most?.any (· < least) then throw .count
      if countLimit < most?.getD least then throw .size
      return (least, most?, rest)
    | _, _ => throw .count

/-! ### Expressions -/

def anyCase (accepts : Char → Bool) (c : Char) : Bool :=
  accepts c || accepts c.toLower || accepts c.toUpper

namespace Read

def next (dialect : Dialect) (starts : Bool) : Read Token := do
  let reader ← get
  let (token, rest) := token dialect starts reader.rest
  set { reader with rest }
  return token

def peek (dialect : Dialect) (starts : Bool) : Read Token := do
  return (token dialect starts (← get).rest).1

def taking {α : Type} (read : Octets → Except Fault (α × Octets)) : Read α := do
  let reader ← get
  let (value, rest) ← read reader.rest
  set { reader with rest }
  return value

end Read

def readRepetitions (dialect : Dialect) : Nat → Regex → Read Regex
  | 0, item => return item
  | fuel + 1, item => do
    let repeated (least : Nat) (most : Option Nat) : Read Regex :=
      readRepetitions dialect fuel (.times least most item)
    match ← Read.peek dialect false with
    | .star =>
      let _ ← Read.next dialect false
      repeated 0 none
    | .plus =>
      let _ ← Read.next dialect false
      repeated 1 none
    | .question =>
      let _ ← Read.next dialect false
      repeated 0 (some 1)
    | .count =>
      let _ ← Read.next dialect false
      let (least, most) ← Read.taking fun rest => do
        let (least, most, rest) ← readCount dialect.extended rest
        return ((least, most), rest)
      repeated least most
    | _ => return item

mutual

def readEither (dialect : Dialect) : Nat → Nat → Read Regex
  | 0, _ => return .nothing
  | fuel + 1, depth => do
    let first ← readBranch dialect fuel depth true
    match ← Read.peek dialect false with
    | .alternative =>
      let _ ← Read.next dialect false
      return .either first (← readEither dialect fuel depth)
    | _ => return first

def readBranch (dialect : Dialect) : Nat → Nat → Bool → Read Regex
  | 0, _, _ => return .nothing
  | fuel + 1, depth, starts => do
    match ← Read.peek dialect starts with
    | .finish => return .nothing
    | .alternative => return .nothing
    | .closing =>
      if 0 < depth then return .nothing
      else readMore dialect fuel depth starts
    | _ => readMore dialect fuel depth starts

def readMore (dialect : Dialect) : Nat → Nat → Bool → Read Regex
  | 0, _, _ => return .nothing
  | fuel + 1, depth, starts => do
    let octet (accepts : Char → Bool) : Regex :=
      .octet (if dialect.ignoresCase then anyCase accepts else accepts)
    let plain (c : Char) : Regex := octet (· = c)
    let continued (item : Regex) : Read Regex := do
      let item ← readRepetitions dialect fuel item
      return .sequence item (← readBranch dialect fuel depth false)
    let unrepeated (item : Regex) : Read Regex := do
      return .sequence item (← readBranch dialect fuel depth false)
    match ← Read.next dialect starts with
    | .plain c => continued (plain c)
    | .any => continued (.octet fun _ => true)
    | .octets accepts => continued (octet accepts)
    | .bracket => continued (octet (← Read.taking readSet))
    | .place holds => unrepeated (.place holds)
    | .lineStart => unrepeated (.place fun before _ => before.isNone)
    | .lineEnd => unrepeated (.place fun _ after => after.isNone)
    | .again number =>
      if number ∉ (← get).closed then throw .backReference
      continued (.again number dialect.ignoresCase)
    | .opening =>
      let number := (← get).opened + 1
      modify fun reader => { reader with opened := number }
      let inside ← readEither dialect fuel (depth + 1)
      match ← Read.next dialect false with
      | .closing =>
        modify fun reader => { reader with closed := number :: reader.closed }
        continued (.group number inside)
      | _ => throw .parenthesis
    | .closing => throw .closing
    | .backslash => throw .backslash
    | .star => if dialect.extended then throw .repetition else continued (plain '*')
    | .plus => if dialect.extended then throw .repetition else continued (plain '+')
    | .question => if dialect.extended then throw .repetition else continued (plain '?')
    | .count => if dialect.extended then throw .repetition else continued (plain '\x7b')
    | .alternative => return .nothing
    | .finish => return .nothing

end

/-- Reads a whole expression; tells also what the reader has come to at its end. -/
def read (dialect : Dialect) (text : Octets) : Except Fault (Regex × Reader) :=
  (readEither dialect (8 * text.length + 8) 0).run { rest := text }

end VersionGate.Sandbox.Regex
