import VersionGate.Log.Event
import VersionGate.Log.Pattern
import VersionGate.Text.Blank
import VersionGate.Text.LowerCase
import VersionGate.Text.Utf8

/-!
Directives: which events of a topic are shown.

A directive names a topic, the fields an event must have, and a threshold, as in "toolgate=info" or
"toolgate[\x7boutput\x7d]=debug".
-/

namespace VersionGate.Log

abbrev Threshold := Nat

namespace Threshold

def named : List (String × Threshold) :=
  [("off", 0), ("error", 1), ("warn", 2), ("info", 3), ("debug", 4), ("trace", 5)]

def everything : Threshold := 5

def ofText? (text : List Char) : Option Threshold :=
  let digits := if text.head? = some '+' then text.tail else text
  if !digits.isEmpty && digits.all Char.isDigit then
    let number := digits.foldl (fun value c => 10 * value + (c.toNat - '0'.toNat)) 0
    if number ≤ everything then some number else none
  else named.lookup (String.ofList (Text.lowerAscii text))

end Threshold

structure Directive where
  topic : Option String := none
  fields : List String := []
  /-- The directive speaks of a stretch of work or of the value of a field. The gate marks no such
  stretches, so it never applies. -/
  dormant : Bool := false
  threshold : Threshold := .everything
deriving DecidableEq

namespace Directive

/-- Whether a text is a decimal number after a plus sign. Without the sign every number is a pattern
as well. -/
def isSignedNumber (text : List Char) : Bool :=
  match text with
  | '+' :: number =>
    let word := Text.lowerAscii number
    let whole := word.takeWhile Char.isDigit
    let rest := word.drop whole.length
    let fraction := if rest.head? = some '.' then rest.tail.takeWhile Char.isDigit else []
    let rest := if rest.head? = some '.' then rest.tail.drop fraction.length else rest
    let exponent? := match rest with
      | [] => some ['0']
      | 'e' :: '+' :: digits => some digits
      | 'e' :: '-' :: digits => some digits
      | 'e' :: digits => some digits
      | _ => none
    let isNumber := (!whole.isEmpty || !fraction.isEmpty) &&
      exponent?.any fun digits => !digits.isEmpty && digits.all Char.isDigit
    isNumber || String.ofList word ∈ ["inf", "infinity", "nan"]
  | _ => false

/-- Adds the condition in braces: the name of a field, or a field with a value, which must be a number
or a pattern and ends at the next equals sign. -/
def requireField? (directive : Directive) (text : List Char) : Option Directive :=
  let name := text.takeWhile (· ≠ '=')
  match text.drop name.length with
  | _ :: valued =>
    let value := valued.takeWhile (· ≠ '=')
    if isSignedNumber value || isPattern value then
      some { directive with fields := [String.ofList name], dormant := true }
    else none
  | [] => if name.isEmpty then none else some { directive with fields := [String.ofList name] }

/-- Where a reader of a directive stands; a part is known by the byte at which it begins. -/
inductive Place where
  | start
  | head
  | scope (first : Nat)
  | field (first : Nat)
  | afterField
  | afterScope
  | threshold (first : Nat)

def canBegin (c : Char) : Bool :=
  c = '-' || c = ':' || c = '_' || Text.isAlphanumeric c

/-- Takes one character, which stands at a byte, with the parts of the text at hand. -/
def advance? (part : Nat → Nat → List Char) (directive : Directive) (place : Place) (index : Nat)
    (c : Char) : Option (Directive × Place) :=
  match place with
  | .start =>
    if c = '[' then some (directive, .scope (index + 1))
    else if canBegin c then some (directive, .head)
    else none
  | .head =>
    let named := { directive with topic := some (String.ofList (part 0 index)) }
    if c = '=' then some (named, .threshold (index + 1))
    else if c = '[' then some (named, .scope (index + 1))
    else some (directive, .head)
  | .scope first =>
    if c = ']' then some ({ directive with dormant := true }, .afterScope)
    else if c = '\x7b' then
      let named := !(part first index).isEmpty
      some ({ directive with dormant := directive.dormant || named }, .field (index + 1))
    else some (directive, .scope first)
  | .field first =>
    if c = '\x7d' then do
      let text := part first index
      if text.isEmpty then none else return (← directive.requireField? text, .afterField)
    else some (directive, .field first)
  | .afterField => if c = ']' then some (directive, .afterScope) else none
  | .afterScope => if c = '=' then some (directive, .threshold (index + 1)) else none
  | .threshold first => some (directive, .threshold first)

/-- Completes a directive whose text has been read to its end. A threshold may be left out or
empty, and then everything is shown; a word that stands alone is a topic unless it is a threshold. -/
def complete? (rest : Nat → List Char) (directive : Directive) : Place → Option Directive
  | .head =>
    match Threshold.ofText? (rest 0) with
    | some threshold => some { directive with threshold }
    | none => some { directive with topic := some (String.ofList (rest 0)) }
  | .threshold first =>
    if (rest first).isEmpty then some directive
    else (Threshold.ofText? (rest first)).map fun threshold => { directive with threshold }
  | .afterScope => some directive
  | _ => none

def readFrom? (part : Nat → Nat → List Char) (rest : Nat → List Char) (directive : Directive)
    (place : Place) (index : Nat) : List Char → Option Directive
  | [] => complete? rest directive place
  | c :: later => do
    let (directive, place) ← advance? part directive place index c
    readFrom? part rest directive place (index + (Text.Utf8.encodeChar c).length) later

/-- Reads one directive. The marks are looked for in the text without the blanks around it, but the
parts are cut from the text with them, so blanks at the start move every part to the left, and blanks
at the end belong to the last part. -/
def ofText? (text : List Char) : Option Directive :=
  let bytes := Text.Utf8.encode text
  let rest (first : Nat) : List Char := Text.Utf8.decode (bytes.drop first)
  let part (first last : Nat) : List Char := Text.Utf8.decode ((bytes.take last).drop first)
  readFrom? part rest {} .start 0 (Text.trim text)

def hasField (event : Event) (name : String) : Bool :=
  name == "message" || (event.fields "").any (·.1 == name)

def applies (directive : Directive) (event : Event) : Bool :=
  !directive.dormant &&
    (directive.topic.all fun topic => topic.toList.isPrefixOf event.topic.toList) &&
    directive.fields.all (hasField event)

def reach (directive : Directive) : Nat :=
  (directive.topic.map (·.utf8ByteSize + 1)).getD 0

/-- Compares how specific two directives are: by the length of the topic, then by the number of
fields, then by the fields themselves. -/
def specificity (directive other : Directive) : Ordering :=
  (compare directive.reach other.reach).then
    ((compare directive.fields.length other.fields.length).then
      (compare directive.fields other.fields))

end Directive

end VersionGate.Log
