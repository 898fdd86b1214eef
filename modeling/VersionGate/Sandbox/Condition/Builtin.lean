import VersionGate.Sandbox.Condition.Basic
import VersionGate.Sandbox.Number

/-!
Conditions as the shell reads them.

A word counts as an operator where it can be one; the current word is the last one that was used.
-/

namespace VersionGate.Sandbox.Condition.Builtin

inductive Role where
  | operand
  | unary (letter : Char)
  | binary
  | negation
  | conjunction
  | disjunction
  | openGroup
  | closeGroup
  | nothing
deriving DecidableEq

def binaryNames : List String :=
  ["=", "!=", "<", ">", "-eq", "-ne", "-ge", "-gt", "-le", "-lt", "-nt", "-ot", "-ef"]

def operator? (word : Octets) : Option Role :=
  match word with
  | ['!'] => some .negation
  | ['('] => some .openGroup
  | [')'] => some .closeGroup
  | ['-', 'a'] => some .conjunction
  | ['-', 'o'] => some .disjunction
  | ['-', letter] =>
    if letter ∈ fileLetters || letter ∈ ['n', 't', 'z'] then some (.unary letter) else none
  | _ => if String.ofList word ∈ binaryNames then some .binary else none

/-- Whether a word that could ask a question is an operand, by the two words after it. -/
def isOperand (next afterNext : Option Octets) : Bool :=
  match next, afterNext with
  | none, _ => true
  | some _, none => false
  | some next, some _ => operator? next = some .binary

def role (words : List Octets) (distance : Nat) : Scan Role := do
  match ← Scan.ahead words distance with
  | none => return .nothing
  | some word =>
    let next ← Scan.ahead words (distance + 1)
    let afterNext ← Scan.ahead words (distance + 2)
    match operator? word with
    | some (.unary letter) =>
      return if isOperand next afterNext then .operand else .unary letter
    | some .openGroup => return if next.isNone then .operand else .openGroup
    | some role => return role
    | none => return .operand

/-- Refuses a condition because of a word. -/
def refuse {α : Type} (word : Octets) (text : String) : Scan α :=
  Scan.fail ((if word.isEmpty then [] else word ++ ": ".toList) ++ text.toList)

def number (text : Octets) : Scan Int :=
  match Number.decimal? text with
  | some value => if text.all Number.isBlank then wrong else return value
  | none => wrong
where
  wrong : Scan Int := Scan.fail ("Illegal number: ".toList ++ text)

def compare (sight : Sight) (left operator right : Octets) : Scan Bool := do
  match relation? operator with
  | some relation =>
    let left ← number left
    let right ← number right
    return relation left right
  | none =>
    match String.ofList operator with
    | "=" => return left == right
    | "!=" => return left != right
    | "<" => return decide (left < right)
    | ">" => return decide (right < left)
    | "-ef" => return sameFile sight left right
    | _ => return false

mutual

def disjunction (sight : Sight) (words : List Octets) : Nat → Role → Scan Bool
  | 0, _ => return false
  | fuel + 1, role => do
    let truth ← conjunction sight words fuel role
    if (← Builtin.role words 1) = .disjunction then
      Scan.skip 2
      let later ← disjunction sight words fuel (← Builtin.role words 0)
      return truth || later
    else return truth

def conjunction (sight : Sight) (words : List Octets) : Nat → Role → Scan Bool
  | 0, _ => return false
  | fuel + 1, role => do
    let truth ← negation sight words fuel role
    if (← Builtin.role words 1) = .conjunction then
      Scan.skip 2
      let later ← conjunction sight words fuel (← Builtin.role words 0)
      return truth && later
    else return truth

def negation (sight : Sight) (words : List Octets) : Nat → Role → Scan Bool
  | 0, _ => return false
  | fuel + 1, role => do
    if role ≠ .negation then primary sight words fuel role
    else
      let next ← Builtin.role words 1
      if next ≠ .nothing then Scan.skip 1
      return !(← negation sight words fuel next)

def primary (sight : Sight) (words : List Octets) : Nat → Role → Scan Bool
  | 0, _ => return false
  | fuel + 1, role => do
    match role with
    | .nothing => return false
    | .openGroup =>
      Scan.skip 1
      let inner ← Builtin.role words 0
      if inner = .closeGroup then return false
      let truth ← disjunction sight words fuel inner
      Scan.skip 1
      if (← Builtin.role words 0) ≠ .closeGroup then Scan.fail "closing paren expected".toList
      return truth
    | .unary letter =>
      Scan.skip 1
      match ← Scan.ahead words 0 with
      | none => refuse ['-', letter] "argument expected"
      | some operand =>
        match letter with
        | 'z' => return operand.isEmpty
        | 'n' => return !operand.isEmpty
        | 't' =>
          let _ ← number operand
          return false
        | _ => return holdsOfFile sight letter operand
    | _ =>
      let left := (← Scan.ahead words 0).getD []
      if (← Builtin.role words 1) = .binary then
        let operator := (← Scan.ahead words 1).getD []
        Scan.skip 2
        match ← Scan.ahead words 0 with
        | none => refuse operator "argument expected"
        | some right => compare sight left operator right
      else return !left.isEmpty

end

def whole (sight : Sight) (words : List Octets) (role : Option Role) : Verdict := do
  let scan : Scan Bool := do
    let role ← match role with
      | some role => pure role
      | none => Builtin.role words 0
    let truth ← disjunction sight words (8 * words.length + 8) role
    match ← Scan.ahead words 0, ← Scan.ahead words 1 with
    | some word, some _ => refuse word "unexpected operator"
    | _, _ => return truth
  return (← scan.run 0).1

/-- Decides a condition. Short ones are decided by their number of words. -/
def decideWords (sight : Sight) : Nat → List Octets → Verdict
  | 0, _ => .ok false
  | _ + 1, [] => .ok false
  | fuel + 1, word :: rest =>
    let words := word :: rest
    let isShort := words.length = 3 || words.length = 4
    if words.length = 3 && rest.head?.any (operator? · = some .binary) then
      whole sight words (some .operand)
    else if isShort && word = ['('] && words.getLast? = some [')'] then
      whole sight rest.dropLast none
    else if isShort && word = ['!'] then (decideWords sight fuel rest).map (!·)
    else whole sight words none

def evaluate (sight : Sight) (words : List Octets) : Verdict :=
  decideWords sight (words.length + 1) words

end VersionGate.Sandbox.Condition.Builtin
