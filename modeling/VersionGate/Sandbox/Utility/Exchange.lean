import VersionGate.Sandbox.Format.Escape
import VersionGate.Sandbox.Utility.Arguments

namespace VersionGate.Sandbox.Utility

namespace ByteSet

def all : List Char :=
  (List.range 256).map Char.ofNat

def byte? : Octets → Option (Char × Octets)
  | '\\' :: c :: rest => some ((Escape.letter? c).getD c, rest)
  | c :: rest => some (c, rest)
  | [] => none

def class? : Octets → Option ((Char → Bool) × Octets)
  | '[' :: ':' :: rest =>
    let name := rest.takeWhile (· ≠ ':')
    match rest.drop name.length, CharacterClass.ofName? name with
    | ':' :: ']' :: rest, some belongs => some (belongs, rest)
    | _, _ => none
  | _ => none

def members : Nat → Octets → List Char
  | 0, _ => []
  | fuel + 1, text =>
    match class? text, byte? text with
    | some (belongs, rest), _ => all.filter belongs ++ members fuel rest
    | none, none => []
    | none, some (first, '-' :: rest) =>
      match byte? rest with
      | some (last, rest) => all.filter (fun c => first ≤ c && c ≤ last) ++ members fuel rest
      | none => [first, '-']
    | none, some (c, rest) => c :: members fuel rest

def read (text : Octets) : List Char :=
  members (text.length + 1) text

end ByteSet

def squeezed (set : List Char) (text : Octets) : Octets :=
  let step : List Char × Option Char → Char → List Char × Option Char := fun (kept, last?) c =>
    if last? = some c && c ∈ set then (kept, last?) else (c :: kept, some c)
  (text.foldl step ([], none)).1.reverse

def tr : Job UInt8 := do
  let parsed ← Arguments.read {
    known := [
      { letter := 'c', long := "complement" }, { letter := 'C' },
      { letter := 'd', long := "delete" }, { letter := 's', long := "squeeze-repeats" }]
    ordered := true }
  let deletes := parsed.has 'd'
  let squeezes := parsed.has 's'
  let least := if deletes = squeezes then 2 else 1
  if parsed.operands.isEmpty then Job.misuse 1 "missing operand".toList
  if parsed.operands.length < least then
    Job.misuse 1 ("missing operand after ".toList ++
      Quotation.quoted (parsed.operands.getLast?.getD []))
  let written := ByteSet.read (parsed.operands.headD [])
  let set := if parsed.has 'c' || parsed.has 'C' then ByteSet.all.filter (· ∉ written) else written
  let input ← match ← Job.takeInput with
    | .ok text => pure text
    | .error fault => Job.fail 1 ("read error: ".toList ++ Job.faultText fault)
  match parsed.operands.tail with
  | target :: _ =>
    let target := ByteSet.read target
    if deletes then Job.print (squeezed target (input.filter (· ∉ set)))
    else
      let last := target.getLast?.getD ' '
      let pairs := set.zip (target ++ List.replicate (set.length - target.length) last)
      let replaced := input.map fun c => (pairs.reverse.lookup c).getD c
      Job.print (if squeezes then squeezed target replaced else replaced)
  | [] => Job.print (if deletes then input.filter (· ∉ set) else squeezed set input)
  return 0

end VersionGate.Sandbox.Utility
