import VersionGate.Sandbox.Octets

/-!
Regular expressions and where they match.

From a place in a text an expression leads to all places at which a match may end. A match is as far
to the left as possible, and then as long as possible.
-/

namespace VersionGate.Sandbox

inductive Regex where
  | nothing
  | octet (accepts : Char → Bool)
  | place (holds : Option Char → Option Char → Bool)
  | sequence (first second : Regex)
  | either (first second : Regex)
  | times (least : Nat) (most : Option Nat) (item : Regex)
  | group (number : Nat) (item : Regex)
  | again (number : Nat) (ignoresCase : Bool)

namespace Regex

/-- A place that a match has come to: what is in front of it and after it, and what the groups have
matched, by number. -/
structure Way where
  position : Nat
  before : Option Char
  rest : Octets
  groups : List (Nat × Nat × Nat) := []

namespace Way

def along (accepts : Char → Bool) : Way → List Way
  | way =>
    let rec go (groups : List (Nat × Nat × Nat)) (position : Nat) :
        Octets → List Way
      | [] => []
      | c :: rest =>
        if accepts c then
          { position := position + 1, before := some c, rest, groups } ::
            go groups (position + 1) rest
        else []
    go way.groups way.position way.rest

def through (ignoresCase : Bool) (way : Way) : Octets → Option Way
  | [] => some way
  | c :: text =>
    match way.rest with
    | [] => none
    | d :: rest =>
      if c = d || (ignoresCase && c.toLower = d.toLower) then
        through ignoresCase { way with position := way.position + 1, before := some d, rest } text
      else none

end Way

def refersBack : Regex → Bool
  | nothing => false
  | octet _ => false
  | place _ => false
  | sequence first second => first.refersBack || second.refersBack
  | either first second => first.refersBack || second.refersBack
  | times _ _ item => item.refersBack
  | group _ item => item.refersBack
  | again _ _ => true

structure Subject where
  text : Octets
  size : Nat
  /-- Whether of several ways to one place only the first one counts. -/
  merges : Bool

namespace Subject

def merged (subject : Subject) (ways : List Way) : List Way :=
  match ways with
  | _ :: _ :: _ =>
    if subject.merges then
      let step : List Way × Array Bool → Way → List Way × Array Bool := fun (kept, seen) way =>
        if seen.getD way.position false then (kept, seen)
        else (way :: kept, seen.setIfInBounds way.position true)
      (ways.foldl step ([], Array.replicate (subject.size + 1) false)).1.reverse
    else ways
  | _ => ways

/-- All ways by any number of steps, each of which goes on by at least a byte. More steps come first.
The places that were visited before are left out. -/
def closure (subject : Subject) (step : Way → List Way) :
    Nat → List Way → Array Bool → List Way × Array Bool
  | 0, _, seen => ([], seen)
  | _ + 1, [], seen => ([], seen)
  | fuel + 1, way :: ways, seen =>
    if subject.merges && seen.getD way.position false then closure subject step fuel ways seen
    else
      let seen := seen.setIfInBounds way.position true
      let further := (step way).filter fun next => way.position < next.position
      let (found, seen) := closure subject step fuel further seen
      let (others, seen) := closure subject step fuel ways seen
      (found ++ way :: others, seen)

def exactly (subject : Subject) (step : Way → List Way) : Nat → List Way → List Way
  | 0, ways => ways
  | count + 1, ways => exactly subject step count (subject.merged (ways.flatMap step))

def atMost (subject : Subject) (step : Way → List Way) : Nat → List Way → List Way
  | 0, ways => ways
  | count + 1, ways =>
    let next := subject.merged (ways.flatMap step)
    if next.isEmpty then ways else atMost subject step count next ++ ways

end Subject

def follow (subject : Subject) : Regex → Way → List Way
  | nothing, way => [way]
  | octet accepts, way => (way.along accepts).take 1
  | place holds, way => if holds way.before way.rest.head? then [way] else []
  | sequence first second, way =>
    subject.merged ((follow subject first way).flatMap (follow subject second))
  | either first second, way =>
    subject.merged (follow subject first way ++ follow subject second way)
  | times 0 none (octet accepts), way => (way.along accepts).reverse ++ [way]
  | times least most item, way =>
    let start := subject.exactly (follow subject item) least [way]
    match most with
    | none =>
      let seen := Array.replicate (subject.size + 1) false
      (subject.closure (follow subject item) (subject.size * subject.size + 2) start seen).1
    | some most => subject.merged (subject.atMost (follow subject item) (most - least) start)
  | group number item, way =>
    (follow subject item way).map fun next =>
      { next with groups := (number, way.position, next.position) ::
          next.groups.filter (·.1 ≠ number) }
  | again number ignoresCase, way =>
    match way.groups.lookup number with
    | none => []
    | some (start, stop) =>
      (way.through ignoresCase ((subject.text.drop start).take (stop - start))).toList

/-- A match: where it starts and stops, and what the groups have matched. -/
structure Match where
  start : Nat
  stop : Nat
  groups : List (Nat × Nat × Nat) := []

/-- The part of a text that a group has matched; group zero is the whole match. -/
def Match.part (found : Match) (text : Octets) (number : Nat) : Octets :=
  let bounds := if number = 0 then some (found.start, found.stop) else found.groups.lookup number
  match bounds with
  | some (start, stop) => (text.drop start).take (stop - start)
  | none => []

/-- The way that comes furthest; the first one if several do. -/
def furthest : List Way → Option Way
  | [] => none
  | way :: ways =>
    some (ways.foldl (fun best next => if best.position < next.position then next else best) way)

def matchAt (regex : Regex) (subject : Subject) (position : Nat) (before : Option Char)
    (rest : Octets) : Option Match :=
  (furthest (follow subject regex { position, before, rest })).map fun way =>
    { start := position, stop := way.position, groups := way.groups }

def findFrom (regex : Regex) (subject : Subject) (position : Nat) (before : Option Char) :
    Octets → Option Match
  | [] => matchAt regex subject position before []
  | c :: rest =>
    match matchAt regex subject position before (c :: rest) with
    | some found => some found
    | none => findFrom regex subject (position + 1) (some c) rest

def find (regex : Regex) (text : Octets) (start : Nat := 0) : Option Match :=
  let subject : Subject := { text, size := text.length, merges := !regex.refersBack }
  let before := if start = 0 then none else text[start - 1]?
  findFrom regex subject start before (text.drop start)

/-- All matches in a text, one after another. An empty match does not follow another match
immediately. -/
def findAll (regex : Regex) (text : Octets) : List Match :=
  let subject : Subject := { text, size := text.length, merges := !regex.refersBack }
  let rec go : Nat → Nat → Option Nat → Option Char → Octets → List Match
    | 0, _, _, _, _ => []
    | fuel + 1, position, last?, before, rest =>
      match findFrom regex subject position before rest with
      | none => []
      | some found =>
        let after := rest.drop (found.stop - position)
        let next (start : Nat) (rest : Octets) : List Match :=
          go fuel start (some found.stop) (text[start - 1]?) rest
        if found.start < found.stop then found :: next found.stop after
        else
          let later := match after with
            | [] => []
            | _ :: after => next (found.stop + 1) after
          if last? = some found.stop then later else found :: later
  go (text.length + 2) 0 none none text

end Regex

end VersionGate.Sandbox
