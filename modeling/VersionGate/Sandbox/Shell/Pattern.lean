import VersionGate.Sandbox.CharacterClass
import VersionGate.Sandbox.FileTree

namespace VersionGate.Sandbox.Shell

/-- A byte of a pattern; a protected one stands for itself. -/
structure PatternOctet where
  isProtected : Bool
  value : Char
deriving DecidableEq

inductive PatternMember where
  | range (first last : Char)
  | named (belongs : Char → Bool)

inductive PatternItem where
  | exactly (c : Char)
  | anyOctet
  | anyText
  | set (negated : Bool) (members : List PatternMember)

namespace Pattern

/-- The class that is named at the start of a text, after an opening bracket, and the text after
it. -/
def class? (text : List PatternOctet) : Option ((Char → Bool) × List PatternOctet) :=
  match text with
  | ⟨false, ':'⟩ :: rest =>
    let name := rest.takeWhile fun octet => octet.value ≠ ':'
    match rest.drop name.length with
    | ⟨false, ':'⟩ :: ⟨false, ']'⟩ :: after =>
      (CharacterClass.ofName? (name.map (·.value))).map fun belongs => (belongs, after)
    | _ => none
  | _ => none

/-- Reads the members of a set up to the closing bracket; the first member may be a bracket. -/
def readMembers : Nat → Bool → List PatternOctet →
    Option (List PatternMember × List PatternOctet)
  | 0, _, _ => none
  | _ + 1, _, [] => none
  | fuel + 1, isFirst, octet :: rest =>
    if octet = ⟨false, ']'⟩ && !isFirst then some ([], rest)
    else
      let single : Option (List PatternMember × List PatternOctet) :=
        match rest with
        | ⟨false, '-'⟩ :: last :: after =>
          if last = ⟨false, ']'⟩ then
            (readMembers fuel false rest).map fun (members, after) =>
              (.range octet.value octet.value :: members, after)
          else
            (readMembers fuel false after).map fun (members, after) =>
              (.range octet.value last.value :: members, after)
        | _ =>
          (readMembers fuel false rest).map fun (members, after) =>
            (.range octet.value octet.value :: members, after)
      match if octet = ⟨false, '['⟩ then class? rest else none with
      | some (belongs, after) =>
        (readMembers fuel false after).map fun (members, after) => (.named belongs :: members, after)
      | none => single

def readSet? (text : List PatternOctet) : Option (PatternItem × List PatternOctet) :=
  let negated := text.head? = some ⟨false, '!'⟩
  let body := if negated then text.tail else text
  (readMembers (body.length + 1) true body).map fun (members, after) =>
    (.set negated members, after)

/-- Reads a pattern. A bracket that is not closed stands for itself. -/
def itemsFrom : Nat → List PatternOctet → List PatternItem
  | 0, _ => []
  | _ + 1, [] => []
  | fuel + 1, octet :: rest =>
    if octet = ⟨false, '*'⟩ then .anyText :: itemsFrom fuel rest
    else if octet = ⟨false, '?'⟩ then .anyOctet :: itemsFrom fuel rest
    else
      match if octet = ⟨false, '['⟩ then readSet? rest else none with
      | some (item, after) => item :: itemsFrom fuel after
      | none => .exactly octet.value :: itemsFrom fuel rest

def applyBackslashes : List PatternOctet → List PatternOctet
  | ⟨false, '\\'⟩ :: octet :: rest => ⟨true, octet.value⟩ :: applyBackslashes rest
  | octet :: rest => octet :: applyBackslashes rest
  | [] => []

def items (octets : List PatternOctet) : List PatternItem :=
  let octets := applyBackslashes octets
  itemsFrom (octets.length + 1) octets

def PatternMember.contains (c : Char) : PatternMember → Bool
  | .range first last => first ≤ c && c ≤ last
  | .named belongs => belongs c

def suffixes : Octets → List Octets
  | [] => [[]]
  | c :: rest => (c :: rest) :: suffixes rest

def isMatch : List PatternItem → Octets → Bool
  | [], text => text.isEmpty
  | .anyText :: items, text => (suffixes text).any (isMatch items)
  | _ :: _, [] => false
  | .anyOctet :: items, _ :: text => isMatch items text
  | .exactly c :: items, d :: text => c = d && isMatch items text
  | .set negated members :: items, c :: text =>
    members.any (PatternMember.contains c) != negated && isMatch items text

/-- A text without the shortest or longest beginning that matches a pattern. -/
def trimStart (longest : Bool) (items : List PatternItem) (text : Octets) : Octets :=
  let lengths := List.range (text.length + 1)
  let lengths := if longest then lengths.reverse else lengths
  match lengths.find? fun length => isMatch items (text.take length) with
  | some length => text.drop length
  | none => text

/-- A text without the shortest or longest end that matches a pattern. -/
def trimEnd (longest : Bool) (items : List PatternItem) (text : Octets) : Octets :=
  let lengths := List.range (text.length + 1)
  let lengths := if longest then lengths else lengths.reverse
  match lengths.find? fun length => isMatch items (text.drop length) with
  | some length => text.take length
  | none => text

/-- A text with the first match of a pattern replaced, which is the longest one where it begins. -/
def replaceFirst (items : List PatternItem) (filling : Octets) : Octets → Octets
  | [] => []
  | c :: rest =>
    let text := c :: rest
    let lengths := (List.range (text.length + 1)).reverse
    match lengths.find? fun length => isMatch items (text.take length) with
    | some length => filling ++ text.drop length
    | none => c :: replaceFirst items filling rest

/-- Whether a pattern stands for anything but itself. -/
def hasWildcard (octets : List PatternOctet) : Bool :=
  (items octets).any fun
    | .exactly _ => false
    | _ => true

/-! ### Paths -/

def components (octets : List PatternOctet) : List (List PatternOctet) :=
  octets.foldr
    (fun octet parts =>
      match parts with
      | part :: later =>
        if octet.value = '/' then [] :: part :: later else (octet :: part) :: later
      | [] => [])
    [[]]

/-- The paths in a directory that match the components of a pattern, with the text written so far
in front of them. Names that begin with a dot are matched only by a dot. -/
def expandComponents (tree : FileTree) (directory : Path) :
    Octets → List (List PatternOctet) → List Octets
  | written, [] => [written]
  | written, part :: rest =>
    let text := (applyBackslashes part).map (·.value)
    let continued (name : Octets) : List Octets :=
      let here := written ++ name
      if rest.isEmpty then
        match tree.find directory here false with
        | .ok _ => [here]
        | .error _ => []
      else expandComponents tree directory (here ++ ['/']) rest
    if hasWildcard part then
      let place := if written.isEmpty then ['.'] else written
      match tree.find directory place with
      | .ok (path, .directory) =>
        let fits (name : Octets) : Bool :=
          (name.head? ≠ some '.' || part.head?.any (·.value = '.')) && isMatch (items part) name
        let names := ((tree.names path).filter fits).mergeSort Octets.inOrder
        names.flatMap continued
      | _ => []
    else continued text

def expandPath (tree : FileTree) (directory : Path) (octets : List PatternOctet) : List Octets :=
  expandComponents tree directory [] (components octets)

end Pattern

end VersionGate.Sandbox.Shell
