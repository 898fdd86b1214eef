import VersionGate.Text.Alphanumeric
import VersionGate.Text.Blank

/-!
Patterns for the values of fields: which texts are patterns.

Since no event is ever decided by the value of a field, a pattern is never matched; it only has to be
well formed for its filter to be read. It stands inside braces, so it holds no closing brace, and a
count of repetitions in braces is never complete. Of the parts of a pattern that have been read, only
the depth of their nesting is kept.
-/

namespace VersionGate.Log.Pattern

inductive Atom where
  | literal (c : Char)
  | choice
  | place
deriving DecidableEq

structure Mode where
  wide : Bool := true
  spaced : Bool := false
deriving DecidableEq

def nestLimit : Nat := 250

/-! ### Blanks and comments -/

/-- The text after the blanks and comments at its beginning. A comment runs to the end of its line. -/
def afterBlanks : List Char → List Char
  | [] => []
  | c :: rest =>
    if Text.isBlank c then afterBlanks rest
    else if c = '#' then afterBlanks ((rest.dropWhile (· ≠ '\n')).drop 1)
    else c :: rest
termination_by text => text.length
decreasing_by
  · simp
  · have shorter := (List.dropWhile_suffix (l := rest) (· ≠ '\n')).length_le
    simp only [List.length_drop, List.length_cons]
    omega

namespace Mode

def next (mode : Mode) (text : List Char) : List Char :=
  if mode.spaced then afterBlanks text else text

/-- The character after the one that a reader stands at. Blanks are looked through, and of a comment
only its first mark. -/
def ahead? (mode : Mode) (rest : List Char) : Option Char :=
  if !mode.spaced then rest.head?
  else
    let found? := match rest.dropWhile Text.isBlank with
      | '#' :: comment => (comment.dropWhile Text.isBlank).head?
      | text => text.head?
    found?.or rest.head?

end Mode

/-! ### Escapes -/

def isMark (c : Char) : Bool :=
  c.toNat < 0x80 && !c.isAlphanum

def hexValue? (c : Char) : Option Nat :=
  if '0' ≤ c && c ≤ '9' then some (c.toNat - '0'.toNat)
  else if 'a' ≤ c && c ≤ 'f' then some (c.toNat - 'a'.toNat + 10)
  else if 'A' ≤ c && c ≤ 'F' then some (c.toNat - 'A'.toNat + 10)
  else none

/-- The number written by exactly so many hexadecimal digits after a value, and the text after them. -/
def readHex? (mode : Mode) : Nat → Nat → List Char → Option (Nat × List Char)
  | 0, value, text => some (value, text)
  | count + 1, value, text =>
    match mode.next text with
    | c :: rest => do readHex? mode count (16 * value + (← hexValue? c)) rest
    | [] => none

/-- Reads a character given by its code point. Among bytes, a code of two digits is a byte, and only
those of ASCII are characters. -/
def readCodePoint? (mode : Mode) (count : Nat) (text : List Char) : Option (Atom × List Char) := do
  let (code, rest) ← readHex? mode count 0 text
  if h : code.isValidChar then
    if !mode.wide && 0x80 ≤ code && count = 2 then none else some (.literal ⟨code.toUInt32, by
      have small : code < 4294967296 := by
        rcases h with h | ⟨_, h⟩ <;> omega
      simpa [UInt32.isValidChar, Nat.mod_eq_of_lt small] using h⟩, mode.next rest)
  else none

def controls : List (Char × Char) :=
  [('a', '\x07'), ('f', '\x0c'), ('t', '\t'), ('n', '\n'), ('r', '\r'), ('v', '\x0b')]

/-- Reads an escape from what follows its backslash. Word boundaries, and classes beyond ASCII, exist
for bytes or for characters only. -/
def readEscape? (mode : Mode) : List Char → Option (Atom × List Char)
  | [] => none
  | c :: rest =>
    if c ∈ ['d', 's', 'w'] then some (.choice, rest)
    else if c ∈ ['D', 'S', 'W'] then if mode.wide then some (.choice, rest) else none
    else if c ∈ ['A', 'z'] then some (.place, rest)
    else if c ∈ ['b', 'B', '<', '>'] then if mode.wide then none else some (.place, rest)
    else
      match c with
      | 'x' => readCodePoint? mode 2 rest
      | 'u' => readCodePoint? mode 4 rest
      | 'U' => readCodePoint? mode 8 rest
      | _ =>
        if c = 'p' || c = 'P' then
          match mode.next rest with
          | category :: rest =>
            if mode.wide && category.toLower ∈ ['c', 'l', 'm', 'n', 'p', 's', 'z'] then
              some (.choice, rest)
            else none
          | [] => none
        else if isMark c then some (.literal c, rest)
        else (controls.lookup c).map fun control => (.literal control, rest)

/-! ### Classes in brackets -/

def namedClasses : List String :=
  ["alnum", "alpha", "ascii", "blank", "cntrl", "digit", "graph", "lower", "print", "punct", "space",
    "upper", "word", "xdigit"]

/-- Whether a named class after an opening bracket is negated, and the text after it. -/
def readNamedClass? (text : List Char) : Option (Bool × List Char) :=
  match text with
  | ':' :: rest =>
    let negated := rest.head? = some '^'
    let rest := if negated then rest.tail else rest
    let name := rest.takeWhile (· ≠ ':')
    match rest.drop name.length with
    | ':' :: ']' :: rest =>
      if String.ofList name ∈ namedClasses then some (negated, rest) else none
    | _ => none
  | _ => none

/-- A class that is open: the depths of the members since the last operator, and of what stands before
that operator. -/
structure OpenClass where
  members : List Nat := []
  before : Option Nat := none

namespace OpenClass

def depth (opened : OpenClass) : Nat :=
  let members := match opened.members with
    | [] => 0
    | [depth] => depth
    | depths => 1 + depths.foldl max 0
  match opened.before with
  | some before => 1 + max before members
  | none => members

def add (opened : OpenClass) (depth : Nat) : OpenClass :=
  { opened with members := depth :: opened.members }

def operate (opened : OpenClass) : OpenClass :=
  { before := some opened.depth }

end OpenClass

def readDashes (mode : Mode) : Nat → OpenClass → List Char → OpenClass × List Char
  | fuel + 1, opened, '-' :: rest => readDashes mode fuel (opened.add 0) (mode.next rest)
  | _, opened, text => (opened, text)

/-- Reads the start of a class after its bracket: dashes there, or else a closing bracket, stand for
themselves. Among bytes no class may be negated. -/
def readClassStart? (mode : Mode) (text : List Char) : Option (OpenClass × List Char) :=
  let text := mode.next text
  let negated := text.head? = some '^'
  let text := if negated then mode.next text.tail else text
  let (opened, rest) := readDashes mode text.length {} text
  if negated && !mode.wide then none
  else
    match opened.members, rest with
    | [], ']' :: rest => some (opened.add 0, mode.next rest)
    | _, _ => some (opened, rest)

/-- Reads one member of a class. Among bytes only the characters of ASCII can be members. -/
def readMember? (mode : Mode) (text : List Char) : Option (Atom × List Char) := do
  let (atom, rest) ← match text with
    | '\\' :: rest => readEscape? mode rest
    | c :: rest => some (.literal c, rest)
    | [] => none
  match atom with
  | .literal c => if mode.wide || c.toNat < 0x80 then some (atom, rest) else none
  | _ => some (atom, rest)

/-- Reads a member of a class, or a range of them, which must not run backwards. -/
def readRange? (mode : Mode) (text : List Char) : Option (List Char) := do
  let (first, rest) ← readMember? mode text
  let single : Option (List Char) := if first = .place then none else some (mode.next rest)
  match mode.next rest with
  | [] => none
  | '-' :: later =>
    let ahead? := mode.ahead? later
    if ahead? = some ']' || ahead? = some '-' then single
    else
      let (last, rest) ← readMember? mode (mode.next later)
      match first, last with
      | .literal first, .literal last => if first ≤ last then some rest else none
      | _, _ => none
  | _ => single

/-- Reads a class up to the bracket that closes it, from inside some open classes, the innermost of
which comes first: its depth, and the text after it. -/
def readClass? (mode : Mode) : Nat → OpenClass → List OpenClass → List Char → Option (Nat × List Char)
  | 0, _, _, _ => none
  | fuel + 1, opened, outside, text =>
    match mode.next text with
    | [] => none
    | ']' :: rest =>
      match outside with
      | [] => some (1 + opened.depth, rest)
      | outer :: outside => readClass? mode fuel (outer.add (1 + opened.depth)) outside rest
    | '[' :: rest =>
      match readNamedClass? rest with
      | some (negated, rest) =>
        if negated && !mode.wide then none else readClass? mode fuel (opened.add 0) outside rest
      | none => do
        let (inner, rest) ← readClassStart? mode rest
        readClass? mode fuel inner (opened :: outside) rest
    | text =>
      if ["&&", "--", "~~"].any fun mark => mark.toList.isPrefixOf text then
        readClass? mode fuel opened.operate outside (text.drop 2)
      else do readClass? mode fuel (opened.add 0) outside (← readRange? mode text)

/-! ### Groups -/

inductive Opening where
  | group (inside : Mode) (name : Option (List Char))
  | flags (mode : Mode)

/-- Reads flags up to a colon or a closing parenthesis. No flag is given twice, and a dash, which
turns the flags after it off, comes once and not last. -/
def readFlags? (mode : Mode) : List Char → List Char → Option (Mode × List Char × List Char)
  | given, c :: rest =>
    if c = ':' || c = ')' then
      if given.head? = some '-' then none else some (mode, given, c :: rest)
    else if c ∈ given || c ∉ ['-', 'i', 'm', 's', 'U', 'u', 'R', 'x'] then none
    else
      let isOn := '-' ∉ given
      let mode := match c with
        | 'u' => { mode with wide := isOn }
        | 'x' => { mode with spaced := isOn }
        | _ => mode
      readFlags? mode (c :: given) rest
  | _, [] => none

def readName? (text : List Char) : Option (List Char × List Char) :=
  let name := text.takeWhile (· ≠ '>')
  let canFollow (c : Char) : Bool := Text.isAlphanumeric c || c ∈ ['_', '.', '[', ']']
  match name, text.drop name.length with
  | first :: later, _ :: rest =>
    if (first = '_' || Text.isAlphabetic first) && later.all canFollow then some (name, rest) else none
  | _, _ => none

def readOpening? (mode : Mode) (text : List Char) : Option (Opening × List Char) :=
  match mode.next text with
  | '?' :: rest =>
    match rest with
    | '=' :: _ | '!' :: _ | '<' :: '=' :: _ | '<' :: '!' :: _ => none
    | 'P' :: '<' :: rest | '<' :: rest => do
      let (name, rest) ← readName? rest
      return (.group mode (some name), rest)
    | _ => do
      match ← readFlags? mode [] rest with
      | (mode, _, ':' :: rest) => return (.group mode none, rest)
      | (mode, given, _ :: rest) => if given.isEmpty then none else return (.flags mode, rest)
      | _ => none
  | text => some (.group mode none, text)

/-- What has been read of a group: the depths of the items of its last alternative, latest first, and of
the alternatives before it. -/
structure Progress where
  mode : Mode := {}
  items : List Nat := []
  isFixed : Bool := false
  alternatives : List Nat := []

namespace Progress

def lastDepth (progress : Progress) : Nat :=
  match progress.items with
  | [] => 0
  | [depth] => depth
  | depths => 1 + depths.foldl max 0

def depth (progress : Progress) : Nat :=
  if progress.alternatives.isEmpty then progress.lastDepth
  else 1 + progress.alternatives.foldl max progress.lastDepth

def add (progress : Progress) (depth : Nat) : Progress :=
  { progress with items := depth :: progress.items, isFixed := false }

def setMode (progress : Progress) (mode : Mode) : Progress :=
  { progress with mode, items := 0 :: progress.items, isFixed := true }

def alternate (progress : Progress) : Progress :=
  { progress with items := [], alternatives := progress.lastDepth :: progress.alternatives }

def repeat? (progress : Progress) : Option Progress :=
  match progress.items with
  | depth :: items => if progress.isFixed then none else some { progress with items := (1 + depth) :: items }
  | [] => none

end Progress

/-- Whether the rest of a text completes a pattern, from inside some open groups, the innermost of which
comes first. The names of the groups so far cannot be given again. -/
def completes : Nat → List (List Char) → Progress → List Progress → List Char → Bool
  | 0, _, _, _, _ => false
  | fuel + 1, names, progress, outside, text =>
    let mode := progress.mode
    let item (depth : Nat) (rest : List Char) : Bool :=
      completes fuel names (progress.add depth) outside rest
    match mode.next text with
    | [] => outside.isEmpty && progress.depth ≤ nestLimit
    | '(' :: rest =>
      match readOpening? mode rest with
      | some (.group inside name?, rest) =>
        !(name?.any (· ∈ names)) &&
          completes fuel (name?.toList ++ names) { mode := inside } (progress :: outside) rest
      | some (.flags mode, rest) => completes fuel names (progress.setMode mode) outside rest
      | none => false
    | ')' :: rest =>
      match outside with
      | outer :: outside => completes fuel names (outer.add (1 + progress.depth)) outside rest
      | [] => false
    | '|' :: rest => completes fuel names progress.alternate outside rest
    | '[' :: rest =>
      let found? := do
        let (opened, rest) ← readClassStart? mode rest
        readClass? mode (rest.length + 1) opened [] rest
      match found? with
      | some (depth, rest) => item depth rest
      | none => false
    | '\x7b' :: _ => false
    | '\\' :: rest =>
      match readEscape? mode rest with
      | some (_, rest) => item 0 rest
      | none => false
    | '.' :: rest => mode.wide && item 0 rest
    | c :: rest =>
      if c ∈ ['?', '*', '+'] then
        match progress.repeat? with
        | some progress =>
          completes fuel names progress outside (if rest.head? = some '?' then rest.tail else rest)
        | none => false
      else item 0 rest

end VersionGate.Log.Pattern

namespace VersionGate.Log

def isPattern (text : List Char) : Bool :=
  Pattern.completes (text.length + 1) [] {} [] text

end VersionGate.Log
