import VersionGate.Sandbox.World

/-!
Scripts as trees: words, redirections and commands.

A word keeps its quotes. A quote mark stands at the beginning and at the end of each quoted stretch,
so that an empty pair of quotes is something, and what stands between two of them is protected.
-/

namespace VersionGate.Sandbox.Shell

inductive Fallback where
  | replace
  | assign
  | refuse
  /-- Uses a word in place of a parameter that is set. -/
  | whenSet
deriving DecidableEq

mutual

inductive Part where
  | octet (escaped : Bool) (c : Char)
  | quoteMark
  | parameter (name : Octets) (use : Use)
  | output (script : Command)
  | arithmetic (expression : List Part)
inductive Use where
  | value
  | length
  /-- The value, or a word as told by the fallback. An empty value may count as none. -/
  | fallback (kind : Fallback) (orEmpty : Bool) (word : List Part)
  /-- The value without the part at one of its ends that matches a pattern. -/
  | trim (atEnd longest : Bool) (pattern : List Part)
  | malformed
  /-- A stretch of the value: where it begins, and how long it is. -/
  | slice (start : List Part) (length : Option (List Part))
  | replace (pattern replacement : List Part)

inductive Target where
  | file (access : Access) (path : List Part)
  /-- A file that is replaced even if replacing is switched off. -/
  | replaced (path : List Part)
  | copy (descriptor : List Part)
  | document (number : Nat)

inductive Redirection where
  | mk (descriptor : Nat) (target : Target)

inductive Command where
  | nothing
  | simple (line : Nat) (assignments words : List (List Part)) (redirections : List Redirection)
  | redirected (line : Nat) (body : Command) (redirections : List Redirection)
  | sequence (first second : Command)
  | both (first second : Command)
  | either (first second : Command)
  | negated (body : Command)
  | piped (commands : List Command)
  | background (body : Command)
  | subshell (line : Nat) (body : Command) (redirections : List Redirection)
  | branch (condition yes no : Command)
  /-- Runs the body as long as the condition holds, or until it does. -/
  | loop (untilTrue : Bool) (condition body : Command)
  | each (line : Nat) (name : Octets) (words : List (List Part)) (body : Command)
  | choice (line : Nat) (subject : List Part) (arms : List (List (List Part) × Command))
  | define (line : Nat) (name : Octets) (body : Command)
end

abbrev Word := List Part

def isNameStart (c : Char) : Bool :=
  c.isAlpha || c = '_'

def isNameRest (c : Char) : Bool :=
  c.isAlphanum || c = '_'

def isName (text : Octets) : Bool :=
  text.head?.any isNameStart && text.all isNameRest

def isSpecialParameter (c : Char) : Bool :=
  c.isDigit || c ∈ ['!', '$', '*', '@', '#', '?', '-']

namespace Word

/-- The text of a word without quotes and expansions. -/
def plain? (word : Word) : Option Octets :=
  word.mapM fun
    | .octet false c => some c
    | _ => none

def assignment? (word : Word) : Option (Octets × Word) :=
  let plainOctet? : Part → Option Char
    | .octet false c => some c
    | _ => none
  let name := (word.map plainOctet?).takeWhile (fun c? => c?.any (· ≠ '=')) |>.filterMap id
  match word.drop name.length with
  | .octet false '=' :: value => if isName name then some (name, value) else none
  | _ => none

def ofOctets (text : Octets) : Word :=
  text.map (.octet false)

def arguments : Word :=
  [.quoteMark, .parameter ['@'] .value, .quoteMark]

/-- The text of a word without its quotes; expansions are left out. -/
def unquoted (word : Word) : Octets :=
  word.filterMap fun
    | .octet _ c => some c
    | _ => none

end Word

end VersionGate.Sandbox.Shell
