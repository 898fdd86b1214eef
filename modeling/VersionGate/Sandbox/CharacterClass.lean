import VersionGate.Sandbox.Octets

namespace VersionGate.Sandbox.CharacterClass

def isGraphic (c : Char) : Bool := '!' ≤ c && c ≤ '~'

def isPrintable (c : Char) : Bool := ' ' ≤ c && c ≤ '~'

def isSpace (c : Char) : Bool := c = ' ' || ('\t' ≤ c && c ≤ '\r')

def isBlank (c : Char) : Bool := c = ' ' || c = '\t'

def table : List (String × (Char → Bool)) :=
  [("alnum", Char.isAlphanum), ("alpha", Char.isAlpha), ("blank", isBlank),
    ("cntrl", fun c => c < ' ' || c = '\x7f'), ("digit", Char.isDigit), ("graph", isGraphic),
    ("lower", Char.isLower), ("print", isPrintable),
    ("punct", fun c => isGraphic c && !c.isAlphanum), ("space", isSpace), ("upper", Char.isUpper),
    ("xdigit", fun c => c.isDigit || ('a' ≤ c && c ≤ 'f') || ('A' ≤ c && c ≤ 'F'))]

def ofName? (name : Octets) : Option (Char → Bool) :=
  table.lookup (String.ofList name)

end VersionGate.Sandbox.CharacterClass
