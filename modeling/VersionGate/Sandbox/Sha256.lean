import VersionGate.Sandbox.Octets

/-!
The secure hash algorithm for words of 32 bits.

A message is padded to full blocks, with one bit, zeros, and the number of its bits. The constants are the
first bits of the fractions of square roots and cube roots of primes, and are computed here from exactly
that.
-/

namespace VersionGate.Sandbox.Sha256

/-! ### Messages as blocks of words -/

def ofBytes (octets : Octets) : Nat :=
  octets.foldl (fun value c => 256 * value + c.toNat) 0

def toBytes (count value : Nat) : Octets :=
  ((List.range count).map fun i => Char.ofNat (value / Nat.pow 256 i % 256)).reverse

def blocksFrom (size : Nat) : Nat → Octets → List Octets
  | 0, _ => []
  | _ + 1, [] => []
  | fuel + 1, text => text.take size :: blocksFrom size fuel (text.drop size)

def blocks (size : Nat) (text : Octets) : List Octets :=
  blocksFrom size (text.length + 1) text

def padded (message : Octets) : Octets :=
  let zeros := (64 - (message.length + 9) % 64) % 64
  message ++ '\x80' :: List.replicate zeros '\x00' ++ toBytes 8 (8 * message.length)

/-! ### Constants -/

/-- The greatest number whose power is at most some number, looked for below a power of two. -/
def rootFrom (power value : Nat) : Nat → Nat → Nat
  | 0, root => root
  | bit + 1, root =>
    let next := root + Nat.pow 2 bit
    rootFrom power value bit (if Nat.pow next power ≤ value then next else root)

def rootFraction (power value : Nat) : BitVec 32 :=
  BitVec.ofNat 32 (rootFrom power (value * Nat.pow 2 (32 * power)) 40 0)

def isPrime (number : Nat) : Bool :=
  2 ≤ number && (List.range number).all fun divisor => divisor < 2 || number % divisor ≠ 0

def primes : List Nat :=
  ((List.range 312).filter isPrime).take 64

def start : List (BitVec 32) :=
  (primes.take 8).map (rootFraction 2)

def constants : Array (BitVec 32) :=
  (primes.map (rootFraction 3)).toArray

/-! ### Rounds -/

def turned (first second third : Nat) (word : BitVec 32) : BitVec 32 :=
  word.rotateRight first ^^^ word.rotateRight second ^^^ word.rotateRight third

def mixed (first second shift : Nat) (word : BitVec 32) : BitVec 32 :=
  word.rotateRight first ^^^ word.rotateRight second ^^^ (word >>> shift)

def schedule (block : Octets) : Array (BitVec 32) :=
  let words := ((blocks 4 block).map fun word => BitVec.ofNat 32 (ofBytes word)).toArray
  (List.range 48).foldl
    (fun known i =>
      known.push
        (known.getD i 0 + mixed 7 18 3 (known.getD (i + 1) 0) + known.getD (i + 9) 0 +
          mixed 17 19 10 (known.getD (i + 14) 0)))
    words

def round (schedule : Array (BitVec 32)) (state : List (BitVec 32)) (i : Nat) : List (BitVec 32) :=
  match state with
  | [a, b, c, d, e, f, g, h] =>
    let choice := (e &&& f) ^^^ (~~~e &&& g)
    let majority := (a &&& b) ^^^ (a &&& c) ^^^ (b &&& c)
    let one := h + turned 6 11 25 e + choice + constants.getD i 0 + schedule.getD i 0
    let two := turned 2 13 22 a + majority
    [one + two, a, b, c, d + one, e, f, g]
  | _ => state

def compress (state : List (BitVec 32)) (block : Octets) : List (BitVec 32) :=
  List.zipWith (· + ·) state ((List.range 64).foldl (round (schedule block)) state)

def digest (message : Octets) : Octets :=
  let words := (blocks 64 (padded message)).foldl compress start
  words.flatMap fun word =>
    let digits := Nat.toDigits 16 word.toNat
    List.replicate (8 - digits.length) '0' ++ digits

end VersionGate.Sandbox.Sha256
