import VersionGate.Sandbox.CharacterClass

/-!
Words in quotes.

Programs show a word either between quote marks, with backslashes inside, or as it would be written
in a command, where most words need no quotes at all.
-/

namespace VersionGate.Sandbox.Quotation

def letter? (c : Char) : Option Char :=
  [('\x07', 'a'), ('\x08', 'b'), ('\x0c', 'f'), ('\n', 'n'), ('\r', 'r'), ('\t', 't'),
    ('\x0b', 'v')].lookup c

def escaped (c : Char) : Octets :=
  match letter? c with
  | some letter => ['\\', letter]
  | none =>
    let digits := Nat.toDigits 8 c.toNat
    '\\' :: (List.replicate (3 - digits.length) '0' ++ digits)

def quoted (word : Octets) : Octets :=
  let inside := word.flatMap fun c =>
    if c = '\'' || c = '\\' then ['\\', c]
    else if CharacterClass.isPrintable c then [c]
    else escaped c
  '\'' :: inside ++ ['\'']

/-- Whether a byte can stand in a command without quotes, by whether it is at the start and whether it
is alone. -/
def isBare (c : Char) (first alone : Bool) : Bool :=
  CharacterClass.isPrintable c &&
    c ∉ [' ', '!', '"', '$', '&', '\'', '(', ')', '*', ';', '<', '=', '>', '?', '[', '\\', '^', '\x60',
      '|'] &&
    !(first && (c = '#' || c = '~')) && !(alone && (c = '\x7b' || c = '\x7d'))

def isPlain (c : Char) (first alone : Bool) : Bool :=
  c.isAlphanum || c ∈ [' ', '\'', '%', '+', ',', '-', '.', '/', ':', '_', ']', '@'] ||
    (first && (c = '#' || c = '~')) || (alone && (c = '\x7b' || c = '\x7d'))

def allBytes (holds : Char → Bool → Bool → Bool) : Octets → Bool
  | [] => true
  | c :: rest => holds c true rest.isEmpty && rest.all fun c => holds c false false

def inside : Bool → Octets → Octets
  | _, [] => []
  | isOpen, c :: rest =>
    if c = '\'' then "'\\''".toList ++ inside false rest
    else if CharacterClass.isPrintable c then
      (if isOpen then ['\'', '\'', c] else [c]) ++ inside false rest
    else (if isOpen then [] else "'$'".toList) ++ escaped c ++ inside true rest

def commandText (word : Octets) : Octets :=
  if '\'' ∈ word && allBytes isPlain word then '"' :: word ++ ['"']
  else '\'' :: inside false word ++ ['\'']

/-- A word as it may be written in a command: in quotes only if it needs them. -/
def commandWord (word : Octets) : Octets :=
  if !word.isEmpty && allBytes isBare word then word else commandText word

def subject (word : Octets) : Octets :=
  if ':' ∈ word then commandText word else commandWord word

end VersionGate.Sandbox.Quotation
