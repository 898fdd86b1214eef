import VersionGate.Text.CharClass

/-!
White space, and the words it separates.

`words` is the only splitting rule of the library: the version field of an output line, the
words of a query command and the check for a blank command all go through it.
-/

namespace VersionGate.Text

def blank : CharClass where
  ranges :=
    [(0x09, 0x0D), (0x20, 0x20), (0x85, 0x85), (0xA0, 0xA0), (0x1680, 0x1680), (0x2000, 0x200A),
      (0x2028, 0x2029), (0x202F, 0x202F), (0x205F, 0x205F), (0x3000, 0x3000)]

def isBlank (c : Char) : Bool :=
  blank.contains c

/-- The word that a text begins with (empty if it begins with a blank) and the words after it. -/
def splitWord : List Char → List Char × List (List Char)
  | [] => ([], [])
  | c :: rest =>
    let (word, later) := splitWord rest
    if isBlank c then ([], if word.isEmpty then later else word :: later)
    else (c :: word, later)

def words (text : List Char) : List (List Char) :=
  let (word, later) := splitWord text
  if word.isEmpty then later else word :: later

def trimEnd (text : List Char) : List Char :=
  (text.reverse.dropWhile isBlank).reverse

def trim (text : List Char) : List Char :=
  trimEnd (text.dropWhile isBlank)

end VersionGate.Text
