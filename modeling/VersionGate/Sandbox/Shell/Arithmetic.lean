import VersionGate.Sandbox.Number
import VersionGate.Sandbox.Shell.Syntax

/-!
Integer expressions of the shell language.

Numbers have 64 bits and wrap. An operand that cannot change the result is read but not evaluated.
-/

namespace VersionGate.Sandbox.Shell.Arithmetic

inductive Token where
  | number (value : Int)
  | name (text : Octets)
  | operator (text : String)
  | unknown
deriving DecidableEq

def operators : List String :=
  ["<<=", ">>=", "||", "&&", "==", "!=", "<=", ">=", "<<", ">>", "+=", "-=", "*=", "/=", "%=", "&=",
    "|=", "^=", "|", "^", "&", "<", ">", "+", "-", "*", "/", "%", "!", "~", "?", ":", "(", ")", "="]

/-- Cuts an expression into tokens; the first unknown byte ends it. -/
def tokens : Nat → List Char → List Token
  | 0, _ => []
  | _ + 1, [] => []
  | fuel + 1, c :: rest =>
    if c = ' ' || c = '\t' || c = '\n' then tokens fuel rest
    else if c.isDigit then
      let reading := Number.read .marked (c :: rest)
      .number (Number.saturate reading.value) :: tokens fuel reading.rest
    else if isNameStart c then
      let name := (c :: rest).takeWhile isNameRest
      .name name :: tokens fuel ((c :: rest).drop name.length)
    else
      match operators.find? fun operator => operator.toList.isPrefixOf (c :: rest) with
      | some operator => .operator operator :: tokens fuel ((c :: rest).drop operator.length)
      | none => [.unknown]

/-- The binary operators from the loosest to the tightest, without those that decide early. -/
def levels : List (List String) :=
  [["|"], ["^"], ["&"], ["==", "!="], ["<=", ">=", "<", ">"], ["<<", ">>"], ["+", "-"],
    ["*", "/", "%"]]

inductive Trouble where
  | malformed (message : String)
  | notNumber (text : Octets)
  | overflow

/-- Evaluation keeps the variables that were assigned, newest first, also when it comes to nothing. -/
abbrev Evaluation := ExceptT Trouble (StateM (List (Octets × Int)))

def fail {α : Type} (message : String) : Evaluation α :=
  throw (.malformed message)

def ofBool (truth : Bool) : Int :=
  if truth then 1 else 0

def bitwise (operation : Nat → Nat → Nat) (left right : Int) : Int :=
  let pattern (value : Int) : Nat := (value % 18446744073709551616).toNat
  Number.wrap (operation (pattern left) (pattern right))

def places (value : Int) : Nat :=
  (value % 64).toNat

/-- The value of a binary operation. Division goes toward zero. -/
def apply (operator : String) (left right : Int) : Evaluation Int :=
  match operator with
  | "|" => return bitwise (· ||| ·) left right
  | "^" => return bitwise (· ^^^ ·) left right
  | "&" => return bitwise (· &&& ·) left right
  | "==" => return ofBool (left == right)
  | "!=" => return ofBool (left != right)
  | "<=" => return ofBool (left ≤ right)
  | ">=" => return ofBool (right ≤ left)
  | "<" => return ofBool (left < right)
  | ">" => return ofBool (right < left)
  | "<<" => return Number.wrap (left * Int.pow 2 (places right))
  | ">>" => return left / Int.pow 2 (places right)
  | "+" => return Number.wrap (left + right)
  | "-" => return Number.wrap (left - right)
  | "*" => return Number.wrap (left * right)
  | _ =>
    if right = 0 then fail "division by zero"
    else if right = -1 && left = -9223372036854775808 then throw .overflow
    else if operator = "/" then return Number.wrap (Int.tdiv left right)
    else return Int.tmod left right

/-- The value of a variable: what was assigned to it here, or else the number it holds. One that is
not set counts as zero. -/
def valueOf (lookup : Octets → Option Octets) (name : Octets) : Evaluation Int := do
  match (← get).lookup name with
  | some value => return value
  | none =>
    let text := (lookup name).getD []
    match Number.integer? .marked text with
    | some value => return value
    | none => throw (.notNumber text)

def assigning? : String → Option (Option String)
  | "=" => some none
  | "<<=" => some (some "<<")
  | ">>=" => some (some ">>")
  | "+=" => some (some "+")
  | "-=" => some (some "-")
  | "*=" => some (some "*")
  | "/=" => some (some "/")
  | "%=" => some (some "%")
  | "&=" => some (some "&")
  | "|=" => some (some "|")
  | "^=" => some (some "^")
  | _ => none

mutual

/-- Reads an operand: a number, a variable, a sign or negation before an operand, or an expression in
parentheses. -/
def operand (lookup : Octets → Option Octets) (counts : Bool) :
    Nat → List Token → Evaluation (Int × List Token)
  | 0, _ => fail "expression is nested too deeply"
  | fuel + 1, tokens =>
    match tokens with
    | .operator "(" :: rest => do
      let (value, rest) ← assignment lookup counts fuel rest
      match rest with
      | .operator ")" :: rest => return (value, rest)
      | _ => fail "expecting ')'"
    | .operator "-" :: rest => do
      let (value, rest) ← operand lookup counts fuel rest
      return (Number.wrap (-value), rest)
    | .operator "+" :: rest => operand lookup counts fuel rest
    | .operator "!" :: rest => do
      let (value, rest) ← operand lookup counts fuel rest
      return (ofBool (value == 0), rest)
    | .operator "~" :: rest => do
      let (value, rest) ← operand lookup counts fuel rest
      return (-value - 1, rest)
    | .number value :: rest => return (value, rest)
    | .name name :: rest => do
      let value ← if counts then valueOf lookup name else pure 0
      return (value, rest)
    | _ => fail "expecting primary"

def binary (lookup : Octets → Option Octets) (counts : Bool) :
    Nat → List (List String) → List Token → Evaluation (Int × List Token)
  | 0, _, _ => fail "expression is nested too deeply"
  | fuel + 1, [], tokens => operand lookup counts fuel tokens
  | fuel + 1, level :: tighter, tokens => do
    let (left, rest) ← binary lookup counts fuel tighter tokens
    operations lookup counts fuel level tighter left rest

def operations (lookup : Octets → Option Octets) (counts : Bool) :
    Nat → List String → List (List String) → Int → List Token → Evaluation (Int × List Token)
  | 0, _, _, _, _ => fail "expression is nested too deeply"
  | fuel + 1, level, tighter, left, tokens =>
    match tokens with
    | .operator operator :: rest =>
      if operator ∈ level then do
        let (right, rest) ← binary lookup counts fuel tighter rest
        let value ← if counts then apply operator left right else pure right
        operations lookup counts fuel level tighter value rest
      else return (left, tokens)
    | _ => return (left, tokens)

def conjunction (lookup : Octets → Option Octets) (counts : Bool) :
    Nat → List Token → Evaluation (Int × List Token)
  | 0, _ => fail "expression is nested too deeply"
  | fuel + 1, tokens => do
    let (left, rest) ← binary lookup counts fuel levels tokens
    match rest with
    | .operator "&&" :: rest =>
      let (right, rest) ← conjunction lookup (counts && left != 0) fuel rest
      return (ofBool (left != 0 && right != 0), rest)
    | _ => return (left, rest)

def disjunction (lookup : Octets → Option Octets) (counts : Bool) :
    Nat → List Token → Evaluation (Int × List Token)
  | 0, _ => fail "expression is nested too deeply"
  | fuel + 1, tokens => do
    let (left, rest) ← conjunction lookup counts fuel tokens
    match rest with
    | .operator "||" :: rest =>
      let (right, rest) ← disjunction lookup (counts && left == 0) fuel rest
      return (ofBool (left != 0 || right != 0), rest)
    | _ => return (left, rest)

def choice (lookup : Octets → Option Octets) (counts : Bool) :
    Nat → List Token → Evaluation (Int × List Token)
  | 0, _ => fail "expression is nested too deeply"
  | fuel + 1, tokens => do
    let (condition, rest) ← disjunction lookup counts fuel tokens
    match rest with
    | .operator "?" :: rest =>
      let (yes, rest) ← assignment lookup (counts && condition != 0) fuel rest
      match rest with
      | .operator ":" :: rest =>
        let (no, rest) ← choice lookup (counts && condition == 0) fuel rest
        return (if condition != 0 then yes else no, rest)
      | _ => fail "expecting ':'"
    | _ => return (condition, rest)

/-- Reads an assignment, or an expression without one. -/
def assignment (lookup : Octets → Option Octets) (counts : Bool) :
    Nat → List Token → Evaluation (Int × List Token)
  | 0, _ => fail "expression is nested too deeply"
  | fuel + 1, tokens =>
    match tokens with
    | .name name :: .operator operator :: rest =>
      match assigning? operator with
      | some applied? => do
        let (value, rest) ← assignment lookup counts fuel rest
        if counts then
          let value ← match applied? with
            | some applied => apply applied (← valueOf lookup name) value
            | none => pure value
          modify fun assigned => (name, value) :: assigned
          return (value, rest)
        else return (value, rest)
      | none => choice lookup counts fuel tokens
    | _ => choice lookup counts fuel tokens

end

def evaluate (lookup : Octets → Option Octets) (text : List Char) :
    Except Trouble Int × List (Octets × Int) :=
  let tokens := tokens (text.length + 1) text
  let whole : Evaluation Int := do
    let (value, rest) ← assignment lookup true (20 * tokens.length + 20) tokens
    if rest.isEmpty then return value else fail "expecting EOF"
  whole.run.run []

end VersionGate.Sandbox.Shell.Arithmetic
