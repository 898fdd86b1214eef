import VersionGate.Sandbox.Shell.Arithmetic
import VersionGate.Sandbox.Shell.Manner

namespace VersionGate.Sandbox.Shell

namespace Expansion

/-- The value of an expression; the variables it assigns get their values. -/
def evaluate (expression : Octets) : Act Octets := do
  let shell ← Act.shell
  let (result, assigned) := Arithmetic.evaluate shell.value? expression
  assigned.reverse.forM fun (name, value) => Act.assign name (Octets.ofInt value)
  match result with
  | .ok value => return Octets.ofInt value
  | .error .overflow => throw (.ended (.killed 8))
  | .error (.malformed message) =>
    Act.fail ("arithmetic expression: ".toList ++ message.toList ++ ": \"".toList ++ expression ++
      ['"'])
  | .error (.notNumber text) => Act.fail ("Illegal number: ".toList ++ text)

/-- The glyphs of a parameter; words inside are expanded by a function. -/
def parameter (expandWord : Manner → Word → Act (List Glyph)) (manner : Manner) (quoted : Bool)
    (name : Octets) (use : Use) : Act (List Glyph) := do
  let shell ← Act.shell
  let held := shell.held name
  let spelled : List Glyph := match held with
    | .nothing => []
    | .text octets => manner.spell quoted octets
    | .several apart all => manner.spellSeveral quoted apart shell all
  let text? : Option Octets := match held with
    | .nothing => none
    | .text octets => some octets
    | .several _ all => some (shell.joined all)
  let present : Act Octets := do
    match text? with
    | some octets => return octets
    | none =>
      if shell.isOn 'u' then Act.failAbout name "parameter not set"
      else return []
  let inner : Manner := { manner with quoted, divisible := manner.divides && !quoted }
  let single : Manner := { quoted }
  match use with
  | .value =>
    let _ ← present
    return spelled
  | .length => return manner.spell quoted (Octets.ofNat (← present).length)
  | .fallback kind orEmpty word =>
    let isMissing := match text? with
      | some octets => orEmpty && octets.isEmpty
      | none => true
    match kind with
    | .replace => if isMissing then expandWord inner word else return spelled
    | .whenSet => if isMissing then return [] else expandWord inner word
    | .assign =>
      if isMissing then
        let octets := Glyph.octets (← expandWord single word)
        if !isName name then Act.failAbout name "bad variable name"
        Act.assign name octets
        return manner.spell quoted octets
      else return spelled
    | .refuse =>
      if isMissing then
        let octets := Glyph.octets (← expandWord single word)
        let message :=
          if !word.isEmpty then octets
          else if orEmpty then "parameter not set or null".toList
          else "parameter not set".toList
        Act.fail (name ++ ": ".toList ++ message)
      else return spelled
  | .trim atEnd longest pattern =>
    let octets ← present
    if text?.isNone then return []
    let items := Pattern.items (Glyph.pattern (← expandWord {} pattern))
    let trimmed :=
      if atEnd then Pattern.trimEnd longest items octets
      else Pattern.trimStart longest items octets
    return manner.spell quoted trimmed
  | .slice start length? =>
    let octets ← present
    let number (word : Word) : Act Nat := do
      let text ← evaluate (Glyph.octets (← expandWord { quoted := true } word))
      return Number.natural text
    let rest := octets.drop (← number start)
    match length? with
    | none => return manner.spell quoted rest
    | some length => return manner.spell quoted (rest.take (← number length))
  | .replace pattern replacement =>
    let octets ← present
    let items := Pattern.items (Glyph.pattern (← expandWord {} pattern))
    let filling := Glyph.octets (← expandWord {} replacement)
    return manner.spell quoted (Pattern.replaceFirst items filling octets)
  | .malformed => Act.fail "Bad substitution".toList

/-- Goes through the parts of a word. A pair of quotes that holds nothing but all arguments gives
nothing where there are none. -/
def walk (expandPart : Bool → Part → Act (List Glyph)) :
    List Part → Bool → List Glyph → Act (List Glyph)
  | [], _, done => return done.reverse
  | .quoteMark :: .parameter ['@'] .value :: .quoteMark :: rest, false, done => do
    let glyphs ← expandPart true (.parameter ['@'] .value)
    let marked :=
      if (← Act.shell).arguments.isEmpty then [] else .mark :: glyphs.flatMap fun
        | .cut => [.cut, .mark]
        | glyph => [glyph]
    walk expandPart rest false (marked.reverse ++ done)
  | .quoteMark :: .quoteMark :: rest, quoted, done =>
    walk expandPart rest quoted (.mark :: .mark :: done)
  | .quoteMark :: part :: .quoteMark :: rest, false, done => do
    let glyphs ← expandPart true part
    let marked := Glyph.mark :: glyphs ++ [.mark]
    walk expandPart rest false (marked.reverse ++ done)
  | .quoteMark :: rest, quoted, done => walk expandPart rest (!quoted) (.mark :: done)
  | part :: rest, quoted, done => do
    let glyphs ← expandPart quoted part
    walk expandPart rest quoted (glyphs.reverse ++ done)

/-- Expands a word; the scripts in it are run by a function that tells what they print. -/
def word (output : Command → Act Octets) : Nat → Manner → Word → Act (List Glyph)
  | 0, _, _ => throw .exhausted
  | depth + 1, manner, parts => do
    let expandPart (quoted : Bool) : Part → Act (List Glyph)
      | .octet escaped c => return [.octet c escaped (manner.divisible && !escaped && !quoted)]
      | .quoteMark => return [.mark]
      | .parameter name use => parameter (word output depth) manner quoted name use
      | .output script => return manner.spell quoted (← output script)
      | .arithmetic expression => do
        let octets := Glyph.octets (← word output depth { quoted := true } expression)
        return manner.spell quoted (← evaluate octets)
    walk expandPart parts manner.quoted []

end Expansion

structure Expander where
  glyphs : Manner → Word → Act (List Glyph)

namespace Expander

def fields (expander : Expander) (word : Word) : Act (List Octets) := do
  let glyphs ← expander.glyphs { divides := true } word
  let shell ← Act.shell
  return Field.ofGlyphs (← Act.world).tree shell.directory (!shell.isOn 'f') shell.separators
    glyphs

def text (expander : Expander) (word : Word) : Act Octets := do
  return Glyph.octets (← expander.glyphs {} word)

def document (expander : Expander) (word : Word) : Act Octets := do
  return Glyph.octets (← expander.glyphs { quoted := true } word)

def pattern (expander : Expander) (word : Word) : Act (List PatternItem) := do
  let glyphs ← expander.glyphs {} word
  return Pattern.items (Glyph.pattern glyphs)

def assignment (expander : Expander) (word : Word) : Act (Option (Octets × Octets)) := do
  match Word.assignment? word with
  | some (name, value) => return some (name, ← expander.text value)
  | none => return none

end Expander

end VersionGate.Sandbox.Shell
