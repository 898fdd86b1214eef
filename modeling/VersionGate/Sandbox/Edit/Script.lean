import VersionGate.Sandbox.Regex.Basic

namespace VersionGate.Sandbox.Edit

/-- An expression to look for; without one, the last one that was used counts. -/
abbrev Wanted := Option Regex

/-- The first or only address of a command. -/
inductive Address where
  | line (number : Nat)
  | stepping (first step : Nat)
  | lastLine
  | matching (wanted : Wanted)

inductive RangeEnd where
  | line (number : Nat)
  | lastLine
  | matching (wanted : Wanted)
  | further (count : Nat)
  | multiple (number : Nat)

inductive Piece where
  | text (octets : Octets)
  | group (number : Nat)

structure Substitution where
  wanted : Wanted
  replacement : List Piece
  from_ : Nat := 1
  all : Bool := false
  prints : Bool := false

/-- What a command does with the line that is edited, which is called the space here. -/
inductive Action where
  | substitute (substitution : Substitution)
  | append (text : Octets)
  | insert (text : Octets)
  | change (text : Octets)
  | delete
  | deleteFirst
  | print
  | printFirst
  | next
  | addNext
  /-- Keeps the space; the flag tells whether after what is kept. -/
  | keep (adds : Bool)
  /-- Fetches what is kept; the flag tells whether after the space. -/
  | fetch (adds : Bool)
  | exchange
  | quit (code : Nat) (silently : Bool)
  | tellNumber
  /-- Goes to a label: always, or if something was substituted. -/
  | jump (label : Octets) (ifSubstituted : Bool)
  | label (name : Octets)
  | opening
  | closing

structure Command where
  first : Option Address := none
  last : Option RangeEnd := none
  negated : Bool := false
  action : Action

end VersionGate.Sandbox.Edit
