import VersionGate.Sandbox.Shell.Pattern

namespace VersionGate.Sandbox.Shell

inductive Glyph where
  /-- A byte. A protected one is no part of a pattern; a divisible one may separate fields. -/
  | octet (c : Char) (isProtected divisible : Bool)
  /-- A quote mark: something stands here, even if it is empty. -/
  | mark
  | cut
  | border
deriving DecidableEq

namespace Glyph

def octets (glyphs : List Glyph) : Octets :=
  glyphs.filterMap fun
    | octet c _ _ => some c
    | _ => none

def pattern (glyphs : List Glyph) : List PatternOctet :=
  glyphs.filterMap fun
    | octet c isProtected _ => some ⟨isProtected, c⟩
    | _ => none

end Glyph

namespace Field

/-- The bytes that separate fields unless others are chosen. -/
def defaultSeparators : Octets := [' ', '\t', '\n']

inductive Passed where
  | content
  /-- The beginning of a stretch; blanks are no content there. -/
  | beginning
  | blank
  | separator
deriving DecidableEq

/-- The state of dividing: the finished fields, newest first, and the one being built, reversed. -/
structure Division where
  fields : List (List Glyph) := []
  current : List Glyph := []
  passed : Passed := .beginning

namespace Division

def finish (division : Division) (passed : Passed) : Division :=
  { fields := division.current.reverse :: division.fields, current := [], passed }

def keep (division : Division) (glyph : Glyph) : Division :=
  { division with current := glyph :: division.current, passed := .content }

/-- Takes one glyph. Blanks around a separator belong to it. -/
def take (separators : Octets) (division : Division) (glyph : Glyph) : Division :=
  match glyph with
  | .cut => division.finish .beginning
  | .border => { division with passed := .beginning }
  | .mark => division.keep glyph
  | .octet c _ divisible =>
    if !divisible || c ∉ separators then division.keep glyph
    else
      let isBlank := c ∈ defaultSeparators
      match division.passed with
      | .blank => if isBlank then division else { division with passed := .separator }
      | .separator => if isBlank then division else division.finish .separator
      | _ =>
        if isBlank then
          if division.current.isEmpty then division else division.finish .blank
        else division.finish .separator

end Division

def divide (separators : Octets) (glyphs : List Glyph) : List (List Glyph) :=
  let division := glyphs.foldl (Division.take separators) {}
  (if division.current.isEmpty then division.fields
    else division.current.reverse :: division.fields).reverse

/-! ### A limited number of fields -/

/-- The state of dividing a line into a limited number of fields: the finished ones, newest first, the
one being built, reversed, and how long it is without the separators at its end. -/
structure LineDivision where
  fields : List Octets := []
  current : Octets := []
  length : Nat := 0
  kept : Option Nat := none
  afterBlank : Bool := false
  left : Nat

namespace LineDivision

def push (division : LineDivision) (c : Char) : LineDivision :=
  { division with current := c :: division.current, length := division.length + 1 }

def restart (division : LineDivision) : LineDivision :=
  { division with current := [], length := 0 }

/-- Takes one byte, which may be divisible. The last field takes in separators, but not those at its
end: blanks, and with them one that is not blank. -/
def take (separators : Octets) (division : LineDivision) (octet : Char × Bool) : LineDivision :=
  let (c, divisible) := octet
  let separates := divisible && c ∈ separators
  let isBlank := separates && c ∈ defaultSeparators
  if division.left = 0 then
    if isBlank then { division with kept := division.kept <|> some division.length }.push c
    else
      let kept := if separates && division.afterBlank then division.kept else none
      { division with kept, afterBlank := false }.push c
  else if division.afterBlank then
    if isBlank then division.restart
    else if separates then { division.restart with afterBlank := false }
    else { division.restart with afterBlank := false }.push c
  else if separates then
    if isBlank && division.length = 0 then division
    else if division.left = 1 then
      { division with left := 0, kept := some division.length, afterBlank := isBlank }.push c
    else
      { division.restart with
        fields := division.current.reverse :: division.fields
        left := division.left - 1
        afterBlank := isBlank }
  else { division with afterBlank := false }.push c

end LineDivision

def divideLine (separators : Octets) (count : Nat) (line : List (Char × Bool)) : List Octets :=
  let division := line.foldl (LineDivision.take separators) { left := count }
  let last := division.current.reverse.take (division.kept.getD division.length)
  (if last.isEmpty then division.fields else last :: division.fields).reverse

/-- The fields of an expanded word, with the paths that patterns stand for if that is wanted; a pattern
that matches nothing stands for itself. -/
def ofGlyphs (tree : FileTree) (directory : Path) (expandsPaths : Bool) (separators : Octets)
    (glyphs : List Glyph) : List Octets :=
  (divide separators glyphs).flatMap fun field =>
    let pattern := Glyph.pattern field
    if expandsPaths && Pattern.hasWildcard pattern then
      let paths := Pattern.expandPath tree directory pattern
      if paths.isEmpty then [Glyph.octets field] else paths
    else [Glyph.octets field]

end Field

end VersionGate.Sandbox.Shell
