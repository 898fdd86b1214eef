import VersionGate.Sandbox.Shell.Reader.Token

/-!
Reading words.

The characters of a word are taken one by one. How they are taken depends on the quotes and braces
around them, which form layers: a layer is added where an expansion begins under other quotes than
those around it, and dropped where that expansion ends.
-/

namespace VersionGate.Sandbox.Shell

namespace Reader

inductive Quoting where
  | plain
  | single
  | double
  | arithmetic
deriving DecidableEq

structure Layer where
  quoting : Quoting := .plain
  inDouble : Bool := false
  braces : Nat := 0
  doubleBraces : Nat := 0
  innerDouble : Bool := false
  parentheses : Nat := 0
  ofBrace : Bool := false

inductive Opening where
  | parameter (name : Octets) (use : List Part → Use)
  | arithmetic

inductive Setting where
  | script
  /-- The word after which a document ends; nothing in it is expanded. -/
  | mark
  | document
deriving DecidableEq

structure Draft where
  layer : Layer := {}
  outer : List Layer := []
  parts : List Part := []
  openings : List (Opening × List Part) := []
  quoted : Bool := false

namespace Draft

def add (draft : Draft) (part : Part) : Draft :=
  { draft with parts := part :: draft.parts }

def addOctet (draft : Draft) (escaped : Bool) (c : Char) : Draft :=
  draft.add (.octet escaped c)

def open_ (draft : Draft) (opening : Opening) : Draft :=
  { draft with parts := [], openings := (opening, draft.parts) :: draft.openings }

def closeOpening (draft : Draft) : Draft :=
  match draft.openings with
  | (.parameter name use, before) :: openings =>
    { draft with parts := .parameter name (use draft.parts.reverse) :: before, openings }
  | (.arithmetic, before) :: openings =>
    { draft with parts := .arithmetic draft.parts.reverse :: before, openings }
  | [] => draft

def push (draft : Draft) (layer : Layer) : Draft :=
  { draft with layer, outer := draft.layer :: draft.outer }

def pop (draft : Draft) : Draft :=
  match draft.outer with
  | layer :: outer => { draft with layer, outer }
  | [] => draft

def isInside (draft : Draft) : Bool :=
  draft.layer.quoting ≠ .plain || draft.layer.braces ≠ 0

/-- A quote mark; documents have none. -/
def mark (draft : Draft) (setting : Setting) : Draft :=
  if setting = .document then draft else draft.add .quoteMark

def doubleMark (draft : Draft) (setting : Setting) : Draft :=
  let layer := draft.layer
  let layer :=
    if layer.braces ≠ 0 then { layer with innerDouble := !layer.innerDouble } else layer
  { draft with layer }.mark setting

def endQuote (draft : Draft) (setting : Setting) (c : Char) : Draft :=
  if setting = .document && draft.layer.braces = 0 then draft.addOctet false c
  else
    let layer :=
      if draft.layer.doubleBraces = 0 then
        { draft.layer with quoting := .plain, inDouble := false }
      else draft.layer
    let draft := { draft with layer, quoted := true }
    if c = '"' then draft.doubleMark setting else draft.mark setting

def closeBrace (draft : Draft) : Draft :=
  let layer := draft.layer
  if layer.innerDouble || layer.braces = 0 then draft.addOctet false '\x7d'
  else
    let layer := { layer with braces := layer.braces - 1 }
    let closed := draft.closeOpening
    if layer.braces = 0 && layer.ofBrace then closed.pop
    else if layer.doubleBraces ≠ 0 then
      { closed with layer := { layer with doubleBraces := layer.doubleBraces - 1 } }
    else { closed with layer }

/-- Opens a brace. Patterns are read without the quotes around the brace, and words in an expression
as between double quotes. -/
def openBrace (draft : Draft) (isPattern : Bool) (name : Octets) (use : List Part → Use) : Draft :=
  let wanted : Quoting :=
    if isPattern then .plain
    else if draft.layer.quoting = .arithmetic then .double
    else draft.layer.quoting
  let draft :=
    if wanted ≠ draft.layer.quoting || draft.layer.innerDouble then
      draft.push { quoting := wanted, inDouble := wanted ≠ .plain, ofBrace := true }
    else draft
  let layer := draft.layer
  let layer := { layer with
    braces := layer.braces + 1
    doubleBraces := if layer.inDouble then layer.doubleBraces + 1 else layer.doubleBraces }
  { draft with layer }.open_ (.parameter name use)

end Draft

def readEscaped (setting : Setting) (draft : Draft) : Parse Draft := do
  let draft := { draft with quoted := true }
  match ← peekRaw with
  | none => return { draft.addOctet true '\\' with quoted := true }
  | some c =>
    drop
    let layer := draft.layer
    let keeps := layer.inDouble && c ∉ ['\\', '\x60', '$'] &&
      (c ≠ '"' || (setting = .document && layer.braces = 0)) &&
      (c ≠ '\x7d' || layer.braces = 0)
    return (if keeps then draft.addOctet true '\\' else draft).addOctet true c

/-- What stands between two old marks around a script: backslashes before some characters are
dropped. -/
def readBackquoted (inDouble : Bool) : Nat → Parse (List Char)
  | 0 => unclosed
  | fuel + 1 => do
    match ← peek with
    | none => unclosed
    | some '\x60' =>
      drop
      return []
    | some '\\' =>
      drop
      match ← peekRaw with
      | none => unclosed
      | some c =>
        drop
        let rest ← readBackquoted inDouble fuel
        if c ∈ ['\\', '\x60', '$'] || (inDouble && c = '"') then return c :: rest
        else return '\\' :: c :: rest
    | some c =>
      drop
      return c :: (← readBackquoted inDouble fuel)
where
  unclosed : Parse (List Char) :=
    refuse "EOF in backquote substitution"

/-- Reads the name of a parameter after a dollar sign. A name with one digit is complete outside
braces. -/
def readParameterName (braced : Bool) : Parse Octets := do
  match ← peek with
  | some c =>
    if isNameStart c then takeWhile isNameRest (← supply)
    else if c.isDigit && braced then takeWhile Char.isDigit (← supply)
    else
      drop
      return [c]
  | none => return []

/-- Cuts the parts of a word at the first mark that nothing protects; the mark may be missing. -/
def cutAtMark (mark : Char) : List Part → List Part × Option (List Part)
  | [] => ([], none)
  | .octet false c :: rest =>
    if c = mark then ([], some rest)
    else
      let (before, after) := cutAtMark mark rest
      (.octet false c :: before, after)
  | part :: rest =>
    let (before, after) := cutAtMark mark rest
    (part :: before, after)

def sliceOf (parts : List Part) : Use :=
  let (start, length) := cutAtMark ':' parts
  .slice start length

def replaceOf (parts : List Part) : Use :=
  let (pattern, replacement) := cutAtMark '/' parts
  .replace pattern (replacement.getD [])

/-- Reads what a brace says about a parameter with a name, from the character after the name. -/
def readUse (draft : Draft) (name : Octets) : Parse Draft := do
  let orEmpty ← dropIf ':'
  let withWord (kind : Fallback) : Parse Draft := do
    drop
    return draft.openBrace false name (.fallback kind orEmpty)
  let malformed (isPattern : Bool) : Draft := draft.openBrace isPattern name fun _ => .malformed
  match ← peek with
  | some '\x7d' =>
    drop
    if orEmpty then return draft.openBrace false name fun _ => .value
    else return draft.add (.parameter name .value)
  | some '-' => withWord .replace
  | some '+' => withWord .whenSet
  | some '?' => withWord .refuse
  | some '=' => withWord .assign
  | some c =>
    if !orEmpty && (c = '%' || c = '#') then
      drop
      let longest ← dropIf c
      return draft.openBrace true name (.trim (c = '%') longest)
    else if (← get).dialect = .bash && orEmpty then return draft.openBrace false name sliceOf
    else if (← get).dialect = .bash && c = '/' then
      drop
      return draft.openBrace true name replaceOf
    else
      drop
      return malformed false
  | none => return malformed false

def readBraced (draft : Draft) : Parse Draft := do
  let malformed (name : Octets) : Draft := draft.openBrace false name fun _ => .malformed
  let length (name : Octets) : Parse Draft := do
    if (← peek) = some '\x7d' then return draft.openBrace false name fun _ => .length
    else return malformed name
  match ← peek with
  | none => return malformed []
  | some '\x7d' => return malformed []
  | some '#' =>
    let before ← get
    drop
    match ← peek with
    | some c =>
      if isNameRest c then length (← readParameterName true)
      else
        drop
        if c ≠ '\x7d' && (← peek) = some '\x7d' then
          if isSpecialParameter c then length [c] else return malformed [c]
        else
          set before
          drop
          readUse draft ['#']
    | none => readUse draft ['#']
  | some c =>
    if isNameStart c || isSpecialParameter c then readUse draft (← readParameterName true)
    else
      drop
      return malformed []

/-- Reads what follows a dollar sign. A dollar sign that begins no expansion stands for itself. -/
def readDollar (readers : ScriptReaders) (draft : Draft) : Parse Draft := do
  match ← peek with
  | some '(' =>
    drop
    if ← dropIf '(' then
      return (draft.push { quoting := .arithmetic, inDouble := true }).open_ .arithmetic
    else return draft.add (.output (← readers.enclosed))
  | some '\x7b' =>
    drop
    readBraced draft
  | some c =>
    if isNameStart c || isSpecialParameter c then
      return draft.add (.parameter (← readParameterName false) .value)
    else return draft.addOctet false '$'
  | none => return draft.addOctet false '$'

/-- Takes a closing parenthesis in an expression; two of them end it. -/
def readCloseParenthesis (draft : Draft) : Parse Draft := do
  let layer := draft.layer
  if layer.parentheses ≠ 0 then
    return { draft.addOctet false ')' with
      layer := { layer with parentheses := layer.parentheses - 1 } }
  else if ← dropIf ')' then return draft.closeOpening.pop
  else return draft.addOctet false ')'

def isSeparator (c : Char) : Bool :=
  c ∈ [' ', '\t', '\n', ';', '&', '|', '(', ')', '<', '>']

/-- Takes one character other than those that end the word, which has been dropped already. -/
def takeOne (scripts : ScriptReaders) (setting : Setting) (draft : Draft) (c : Char) :
    Parse Draft := do
  let layer := draft.layer
  let backquoted : Parse Draft := do
    let text ← readBackquoted layer.inDouble (← supply)
    return draft.add (.output (← scripts.whole text))
  match layer.quoting with
  | .single =>
    if c = '\'' then return draft.endQuote setting c
    else return draft.addOctet true c
  | .plain =>
    if c = '\\' then readEscaped setting draft
    else if c = '\'' then
      return { draft with layer := { layer with quoting := .single } }.mark setting
    else if c = '"' then
      return { draft with
        layer := { layer with quoting := .double, inDouble := true } }.doubleMark setting
    else if c = '$' && setting ≠ .mark then readDollar scripts draft
    else if c = '\x60' && setting ≠ .mark then backquoted
    else if c = '\x7d' then return draft.closeBrace
    else return draft.addOctet false c
  | .double =>
    if c = '\\' then readEscaped setting draft
    else if c = '"' then return draft.endQuote setting c
    else if c = '$' && setting ≠ .mark then readDollar scripts draft
    else if c = '\x60' && setting ≠ .mark then backquoted
    else if c = '\x7d' then return draft.closeBrace
    else return draft.addOctet (c ∈ ['!', '*', '?', '[', '=', '~', ':', '/', '-', ']']) c
  | .arithmetic =>
    if c = '\\' then readEscaped setting draft
    else if c = '$' then readDollar scripts draft
    else if c = '\x60' then backquoted
    else if c = '\x7d' then return draft.closeBrace
    else if c = '(' then
      return { draft.addOctet false c with
        layer := { layer with parentheses := layer.parentheses + 1 } }
    else if c = ')' then readCloseParenthesis draft
    else return draft.addOctet false c

def readDraft (scripts : ScriptReaders) (setting : Setting) : Nat → Draft → Parse Draft
  | 0, draft => return draft
  | fuel + 1, draft => do
    match ← if draft.layer.quoting = .single then peekRaw else peek with
    | none => return draft
    | some c =>
      if isSeparator c && !draft.isInside then return draft
      else
        drop
        readDraft scripts setting fuel (← takeOne scripts setting draft c)

/-- The word of a complete draft; quotes, braces and expressions must be closed. -/
def finishDraft (setting : Setting) (draft : Draft) : Parse Word := do
  if draft.layer.quoting = .arithmetic then refuse "Missing '))'"
  else if draft.layer.quoting ≠ .plain && setting ≠ .document then
    refuse "Unterminated quoted string"
  else if draft.layer.braces ≠ 0 then refuse "Missing '\x7d'"
  else return draft.parts.reverse

end Reader

end VersionGate.Sandbox.Shell
