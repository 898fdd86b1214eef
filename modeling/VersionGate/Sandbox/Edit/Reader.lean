import VersionGate.Sandbox.Edit.Script
import VersionGate.Sandbox.Regex.Reader

namespace VersionGate.Sandbox.Edit

/-- What is wrong with a script, and what had not been read when that was found. -/
structure Fault where
  message : String
  rest : Octets
  isGlobal : Bool := false

abbrev Read := ReaderT Bool (StateT Octets (Except Fault))

namespace Read

def refuse {α : Type} (message : String) : Read α := do
  throw { message, rest := ← get }

/-- Takes a byte; at the end there is none. -/
def take : Read (Option Char) := do
  match ← get with
  | [] => return none
  | c :: rest =>
    set rest
    return some c

def skipBlanks : Read Unit :=
  modify fun rest => rest.dropWhile CharacterClass.isBlank

def takeAfterBlanks : Read (Option Char) := do
  skipBlanks
  take

def takeWhile (accepts : Char → Bool) : Read Octets := do
  let found := (← get).takeWhile accepts
  modify fun rest => rest.drop found.length
  return found

/-- Takes a number; without digits it is zero. -/
def number : Read Nat := do
  return Number.natural (← takeWhile Char.isDigit)

end Read

/-! ### Texts between marks -/

/-- The bytes up to the end of a set in brackets, whose opening bracket has been taken. -/
def bracketText (text : Octets) : Octets :=
  let start := if text.head? = some '^' then 1 else 0
  let start := if (text.drop start).head? = some ']' then start + 1 else start
  text.take start ++ members false (text.drop start)
where
  members : Bool → Octets → Octets
    | _, [] => []
    | true, ':' :: ']' :: rest => ':' :: ']' :: members false rest
    | false, '[' :: ':' :: rest => '[' :: ':' :: members true rest
    | inClass, c :: rest => if c = ']' && !inClass then [c] else c :: members inClass rest

/-- Takes a text up to a mark, which may stand in it after a backslash, or in an expression between
brackets. -/
def takeMarked (mark : Char) (isExpression : Bool) : Nat → Read (Option Octets)
  | 0 => return none
  | fuel + 1 => do
    let before ← get
    let continued (octets : Octets) : Read (Option Octets) := do
      return (← takeMarked mark isExpression fuel).map (octets ++ ·)
    match ← Read.take with
    | none => return none
    | some c =>
      if c = '\n' then
        set before
        return none
      else if c = mark then return some []
      else if c = '\\' then
        match ← Read.take with
        | none => return none
        | some d =>
          if isExpression && d = 'n' then continued ['\n']
          else if d = '\n' then continued ['\n']
          else if d = mark && (isExpression || d ≠ '&') then continued [d]
          else continued ['\\', d]
      else if isExpression && c = '[' then
        let inside := bracketText (← get)
        modify fun rest => rest.drop inside.length
        continued (c :: inside)
      else continued [c]

def takeText (mark : Char) (isExpression : Bool) : Read (Option Octets) := do
  takeMarked mark isExpression ((← get).length + 1)

inductive Setting where
  | expression
  | replacement
  | plain
deriving DecidableEq

/-- Replaces the escapes for control characters and codes. What has a special meaning in its setting
gets a backslash. -/
def expandCodes (setting : Setting) : Nat → Octets → Octets
  | 0, text => text
  | fuel + 1, '\\' :: c :: rest =>
    let coded (base length : Nat) : Octets :=
      let digits := (rest.take length).takeWhile (Number.isDigitOf base)
      if digits.isEmpty then '\\' :: c :: expandCodes setting fuel rest
      else
        let code := Char.ofNat (Number.ofDigits base digits % 256)
        let isSpecial := setting = .replacement && (code = '\\' || code = '&')
        (if isSpecial then ['\\', code] else [code]) ++
          expandCodes setting fuel (rest.drop digits.length)
    match c with
    | 'a' => '\x07' :: expandCodes setting fuel rest
    | 'f' => '\x0c' :: expandCodes setting fuel rest
    | 'r' => '\r' :: expandCodes setting fuel rest
    | 't' => '\t' :: expandCodes setting fuel rest
    | 'v' => '\x0b' :: expandCodes setting fuel rest
    | 'd' => coded 10 3
    | 'o' => coded 8 3
    | 'x' => coded 16 2
    | 'c' =>
      match rest with
      | [] => ['\\', 'c']
      | letter :: rest =>
        Char.ofNat (Nat.xor letter.toUpper.toNat 64) :: expandCodes setting fuel rest
    | _ => '\\' :: c :: expandCodes setting fuel rest
  | fuel + 1, c :: rest => c :: expandCodes setting fuel rest
  | _ + 1, [] => []

def expanded (setting : Setting) (text : Octets) : Octets :=
  expandCodes setting (text.length + 1) text

/-- Reads an expression; tells also how many groups it has. -/
def readExpression (text : Octets) (ignoresCase : Bool) : Read (Wanted × Nat) := do
  if text.isEmpty then
    if ignoresCase then Read.refuse "cannot specify modifiers on empty regexp"
    return (none, 9)
  match Regex.read { extended := ← read, ignoresCase } (expanded .expression text) with
  | .ok (regex, reader) => return (some regex, reader.opened)
  | .error fault => Read.refuse fault.message

/-! ### Addresses -/

inductive Given where
  | address (address : Address)
  | further (count : Nat)
  | multiple (number : Nat)

def takeAddress : Read (Option Given) := do
  let matching (mark : Char) : Read (Option Given) := do
    match ← takeText mark true with
    | none => Read.refuse "unterminated address regex"
    | some text =>
      let ignoresCase := !(← Read.takeWhile (· = 'I')).isEmpty
      return some (.address (.matching (← readExpression text ignoresCase).1))
  let start ← get
  match ← Read.take with
  | some '/' => matching '/'
  | some '\\' =>
    match ← Read.take with
    | some mark => matching mark
    | none => Read.refuse "unterminated address regex"
  | some '$' => return some (.address .lastLine)
  | some '+' =>
    Read.skipBlanks
    return some (.further (← Read.number))
  | some '~' =>
    Read.skipBlanks
    return some (.multiple (← Read.number))
  | some c =>
    if c.isDigit then
      set start
      let number ← Read.number
      Read.skipBlanks
      match ← get with
      | '~' :: rest =>
        set (rest.dropWhile CharacterClass.isBlank)
        let step ← Read.number
        return some (.address (if 0 < step then .stepping number step else .line number))
      | _ => return some (.address (.line number))
    else
      set start
      return none
  | none => return none

def Given.rangeEnd : Given → RangeEnd
  | .address (.line number) => .line number
  | .address (.stepping number _) => .line number
  | .address .lastLine => .lastLine
  | .address (.matching wanted) => .matching wanted
  | .further count => .further count
  | .multiple number => .multiple number

def takeAddresses : Read (Option Address × Option RangeEnd) := do
  match ← takeAddress with
  | none => return (none, none)
  | some (.address first) =>
    Read.skipBlanks
    let last? ← match ← get with
      | ',' :: rest => do
        set rest
        Read.skipBlanks
        match ← takeAddress with
        | some given => pure (some given.rangeEnd)
        | none => do
          let _ ← Read.take
          Read.refuse "unexpected \x60,'"
      | _ => pure none
    let isOpenStart : Bool := match first, last? with
      | .line 0, some (.matching _) => false
      | .line 0, _ => true
      | _, _ => false
    if isOpenStart then
      let _ ← Read.takeAfterBlanks
      Read.refuse "invalid usage of line address 0"
    return (some first, last?)
  | some _ => Read.refuse "invalid usage of +N or ~N as first address"

/-! ### Commands -/

def takeEnd : Read Unit := do
  Read.skipBlanks
  match ← get with
  | '\x7d' :: _ => return
  | '#' :: _ => return
  | _ =>
    match ← Read.take with
    | none => return
    | some c =>
      if c ≠ '\n' && c ≠ ';' then Read.refuse "extra characters after command"

def takeLabel : Read Octets := do
  Read.skipBlanks
  Read.takeWhile fun c => !CharacterClass.isSpace c && c ≠ ';' && c ≠ '\x7d'

/-- Takes the lines of a text; a backslash at the end of a line goes on with the next one. -/
def takeLines : Nat → Read Octets
  | 0 => return []
  | fuel + 1 => do
    match ← Read.take with
    | none => return ['\n']
    | some '\n' => return ['\n']
    | some '\\' =>
      match ← Read.take with
      | none => return ['\n']
      | some c => return '\\' :: c :: (← takeLines fuel)
    | some c => return c :: (← takeLines fuel)

/-- A text without the backslashes in front of other bytes; with the letter n they stand for a line
feed. -/
def withoutBackslashes : Octets → Octets
  | '\\' :: 'n' :: rest => '\n' :: withoutBackslashes rest
  | '\\' :: c :: rest => c :: withoutBackslashes rest
  | c :: rest => c :: withoutBackslashes rest
  | [] => []

def takeWritten : Read Octets := do
  let written : Read Octets := do
    let text ← takeLines ((← get).length + 1)
    return withoutBackslashes (expanded .plain text)
  Read.skipBlanks
  match ← get with
  | [] => Read.refuse "expected \\ after \x60a', \x60c' or \x60i'"
  | '\\' :: rest =>
    match rest with
    | [] =>
      set rest
      return []
    | '\n' :: rest =>
      set rest
      written
    | 'n' :: rest =>
      set rest
      return 'n' :: (← written)
    | _ =>
      set rest
      written
  | _ => written

def pieces : Octets → List Piece
  | [] => []
  | '&' :: rest => .group 0 :: pieces rest
  | '\\' :: c :: rest =>
    let piece : Piece := match c with
      | 'n' => .text ['\n']
      | _ => if c.isDigit then .group (c.toNat - '0'.toNat) else .text [c]
    piece :: pieces rest
  | c :: rest => .text [c] :: pieces rest

structure Flags where
  all : Bool := false
  prints : Bool := false
  ignoresCase : Bool := false
  number? : Option Nat := none

def takeFlags : Nat → Flags → Read Flags
  | 0, flags => return flags
  | fuel + 1, flags => do
    let start ← get
    match ← Read.take with
    | none => return flags
    | some c =>
      if c = '\n' || c = ';' then return flags
      else if c = '\x7d' || c = '#' then
        set start
        return flags
      else if c = ' ' then takeFlags fuel flags
      else if c = 'i' || c = 'I' then takeFlags fuel { flags with ignoresCase := true }
      else if c = 'p' then
        if flags.prints then Read.refuse "multiple \x60p' options to \x60s' command"
        takeFlags fuel { flags with prints := true }
      else if c = 'g' then
        if flags.all then Read.refuse "multiple \x60g' options to \x60s' command"
        takeFlags fuel { flags with all := true }
      else if c.isDigit then
        set start
        if flags.number?.isSome then
          let _ ← Read.take
          Read.refuse "multiple number options to \x60s' command"
        let number ← Read.number
        if number = 0 then Read.refuse "number option to \x60s' command may not be zero"
        takeFlags fuel { flags with number? := some number }
      else Read.refuse "unknown option to \x60s'"

def takeSubstitution : Read Action := do
  let unterminated {α : Type} : Read α := Read.refuse "unterminated \x60s' command"
  match ← Read.take with
  | none => unterminated
  | some mark =>
    match ← takeText mark true with
    | none => unterminated
    | some expression =>
      match ← takeText mark false with
      | none => unterminated
      | some replacement =>
        let flags ← takeFlags ((← get).length + 1) {}
        let (wanted, groups) ← readExpression expression flags.ignoresCase
        let replacement := pieces (expanded .replacement replacement)
        let excess? := replacement.findSome? fun piece =>
          match piece with
          | .group number => if groups < number then some number else none
          | _ => none
        if let some number := excess? then
          Read.refuse
            ("invalid reference \\" ++ toString number ++ " on \x60s' command's RHS")
        return .substitute {
          wanted, replacement, from_ := flags.number?.getD 1, all := flags.all
          prints := flags.prints }

def takeAction (letter : Char) : Read Action := do
  let plain (action : Action) : Read Action := do
    takeEnd
    return action
  let quit (silently : Bool) : Read Action := do
    Read.skipBlanks
    let code ← Read.number
    plain (.quit code silently)
  let jump (ifSubstituted : Bool) : Read Action := do
    let name ← takeLabel
    plain (.jump name ifSubstituted)
  match letter with
  | 's' => takeSubstitution
  | 'a' => return .append (← takeWritten)
  | 'i' => return .insert (← takeWritten)
  | 'c' => return .change (← takeWritten)
  | 'd' => plain .delete
  | 'D' => plain .deleteFirst
  | 'p' => plain .print
  | 'P' => plain .printFirst
  | 'n' => plain .next
  | 'N' => plain .addNext
  | 'h' => plain (.keep false)
  | 'H' => plain (.keep true)
  | 'g' => plain (.fetch false)
  | 'G' => plain (.fetch true)
  | 'x' => plain .exchange
  | '=' => plain .tellNumber
  | 'q' => quit false
  | 'Q' => quit true
  | 'b' => jump false
  | 't' => jump true
  | _ => Read.refuse ("unknown command: \x60" ++ String.ofList [letter] ++ "'")

/-- Takes the commands of a script, with what came after the start of each open block. -/
def takeCommands : Nat → List Octets → Read (List Command)
  | 0, _ => return []
  | fuel + 1, blocks => do
    let _ ← Read.takeWhile fun c => CharacterClass.isSpace c || c = ';'
    if (← get).isEmpty then
      match blocks with
      | rest :: _ => throw { message := "unmatched \x60\x7b'", rest, isGlobal := true }
      | [] => return []
    let (first, last) ← takeAddresses
    let bang ← Read.takeAfterBlanks
    let negated := bang = some '!'
    let letter? ← if negated then Read.takeAfterBlanks else pure bang
    let continued (blocks : List Octets) (action : Action) : Read (List Command) := do
      return { first, last, negated, action } :: (← takeCommands fuel blocks)
    match letter? with
    | none => Read.refuse "missing command"
    | some '\n' => Read.refuse "missing command"
    | some '!' =>
      if negated then Read.refuse "multiple \x60!'s"
      Read.refuse "missing command"
    | some '#' =>
      if first.isSome then Read.refuse "comments don't accept any addresses"
      let _ ← Read.takeWhile (· ≠ '\n')
      takeCommands fuel blocks
    | some '\x7b' => do
      let rest ← get
      continued (rest :: blocks) .opening
    | some '\x7d' =>
      if blocks.isEmpty then Read.refuse "unexpected \x60\x7d'"
      if first.isSome then Read.refuse "\x7d doesn't want any addresses"
      takeEnd
      continued blocks.tail .closing
    | some ':' =>
      if first.isSome then Read.refuse ": doesn't want any addresses"
      let name ← takeLabel
      if name.isEmpty then Read.refuse "\":\" lacks a label"
      continued blocks (.label name)
    | some letter => do
      let action ← takeAction letter
      continued blocks action

def readScript (extended : Bool) (text : Octets) : Except Fault (List Command) := do
  let (commands, _) ← ((takeCommands (text.length + 2) []).run extended).run text
  let isKnown (name : Octets) : Bool := name.isEmpty || commands.any fun command =>
    match command.action with
    | .label other => other = name
    | _ => false
  let missing? := commands.findSome? fun command =>
    match command.action with
    | .jump name _ => if isKnown name then none else some name
    | _ => none
  match missing? with
  | some name =>
    throw {
      message := "can't find label for jump to \x60" ++ Octets.toText name ++ "'"
      rest := [], isGlobal := true }
  | none => return commands

end VersionGate.Sandbox.Edit
