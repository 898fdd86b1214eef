import VersionGate.Sandbox.Shell.Reader.Word

/-!
Reading commands.

A script is read one complete command at a time, since running a command may change how the next one
is read. Each function reads one construct; the supply bounds how deeply constructs nest.
-/

namespace VersionGate.Sandbox.Shell.Reader

structure Accepting where
  skipsNewlines : Bool := false
  keywords : Bool := false
  aliases : Bool := false
  setting : Setting := .script

def Accepting.command : Accepting := { skipsNewlines := true, keywords := true, aliases := true }

def unexpected {α : Type} (token : Token) (wanted : Option Token := none) : Parse α := do
  refuse (token.text ++ " unexpected" ++
    match wanted with
    | some wanted => " (expecting " ++ wanted.text ++ ")"
    | none => "")

def unreadToken (token : Token) : Parse Unit :=
  modify fun reader => { reader with unread := some token }

/-! ### Documents -/

/-- The lines of a text up to one that is the mark, and the lines after it if there is one. A line that
is joined with the next one is not looked at alone. -/
def cutDocument (awaited : Awaited) :
    Nat → Bool → List Char → List Char × Option (List Char)
  | 0, _, text => (text, none)
  | _ + 1, _, [] => ([], none)
  | fuel + 1, isContinued, text =>
    let line := text.takeWhile (· ≠ '\n')
    let rest := (text.drop line.length).tail
    let feed := (text.drop line.length).take 1
    let bare := if awaited.stripsTabs && !isContinued then line.dropWhile (· = '\t') else line
    if !isContinued && bare = awaited.mark then ([], some rest)
    else
      let joins := !awaited.quoted && (bare.reverse.takeWhile (· = '\\')).length % 2 = 1
      let (later, after) := cutDocument awaited fuel joins rest
      (bare ++ feed ++ later, after)

def readDocument (scripts : ScriptReaders) (awaited : Awaited) : Parse Unit := do
  let reader ← get
  let (text, rest?) := cutDocument awaited (reader.rest.length + 1) false reader.rest
  let rest := rest?.getD []
  let lineAfter := reader.line +
    (reader.rest.take (reader.rest.length - rest.length)).count '\n'
  let word ←
    if awaited.quoted then pure (text.map (Part.octet true))
    else do
      set { reader with rest := text }
      let draft ← readDraft scripts .document (text.length + 1)
        { layer := { quoting := .double, inDouble := true } }
      finishDraft .document draft
  modify fun inner => { inner with
    rest
    line := lineAfter
    documents := (awaited.number, word) :: inner.documents }

def readDocuments (scripts : ScriptReaders) : Parse Unit := do
  let awaited := (← get).awaited
  modify fun reader => { reader with awaited := [] }
  awaited.forM (readDocument scripts)

/-! ### Tokens -/

def dropBlanks : Nat → Parse Unit
  | 0 => return
  | fuel + 1 => do
    match ← peek with
    | some '#' =>
      modify fun reader => { reader with rest := reader.rest.dropWhile (· ≠ '\n') }
      dropBlanks fuel
    | some c =>
      if c = ' ' || c = '\t' then
        drop
        dropBlanks fuel
    | none => return

def readArrow (descriptor : Option Nat) : Parse Token := do
  let token (default : Nat) (arrow : Arrow) : Parse Token :=
    return .redirection (descriptor.getD default) arrow
  if ← dropIf '>' then
    if ← dropIf '>' then token 1 (.file .append)
    else if ← dropIf '|' then token 1 .replaced
    else if ← dropIf '&' then token 1 .copy
    else token 1 (.file .replace)
  else
    drop
    if ← dropIf '<' then
      token 0 (.document (← dropIf '-'))
    else if ← dropIf '&' then token 0 .copy
    else if ← dropIf '>' then token 0 (.file .readWrite)
    else token 0 (.file .read)

def readWordToken (scripts : ScriptReaders) (setting : Setting) : Parse Token := do
  let draft ← readDraft scripts setting (← supply) {}
  let word ← finishDraft .script draft
  let isArrow := match ← peek with
    | some c => c = '<' || c = '>'
    | none => false
  if isArrow && !draft.quoted then
    match word with
    | [] => readArrow none
    | [.octet false c] =>
      if c.isDigit then readArrow (some (c.toNat - '0'.toNat)) else return .word word draft.quoted
    | _ => return .word word draft.quoted
  else return .word word draft.quoted

def readPlainToken (scripts : ScriptReaders) (setting : Setting) : Parse Token := do
  let reader ← get
  match reader.unread with
  | some token =>
    set { reader with unread := none }
    return token
  | none =>
    dropBlanks (← supply)
    match ← peek with
    | none => return .endOfFile
    | some c =>
      let single (token : Token) : Parse Token := do
        drop
        return token
      let maybeDouble (one two : Token) : Parse Token := do
        drop
        return if ← dropIf c then two else one
      match c with
      | '\n' => single .newline
      | '&' => maybeDouble .ampersand .and
      | '|' => maybeDouble .pipe .or
      | ';' => maybeDouble .semicolon .doubleSemicolon
      | '(' => single .open
      | ')' => single .close
      | _ => readWordToken scripts setting

/-- The alias that a word stands for, unless the word comes out of that alias itself. -/
def alias? (reader : Reader) (word : Octets) : Option Octets :=
  let isBusy := reader.inAlias.any fun (name, after) => name = word && after < reader.rest.length
  if isBusy then none else reader.aliases.lookup word

/-- Puts the text of an alias in the place of its name. After a text that ends with a blank, the next
word may be an alias too. -/
def expandAlias (reader : Reader) (name value : Octets) : Reader :=
  let endsBlank := value.getLast?.any fun c => c = ' ' || c = '\t'
  { reader with
    rest := value ++ reader.rest
    inAlias := (name, reader.rest.length) :: reader.inAlias
    afterAlias := if endsBlank then some reader.rest.length else none }

/-- Whether the word that has just been read comes right after the text of an alias that ends with a
blank. -/
def followsAlias (reader : Reader) : Bool :=
  reader.afterAlias.any (reader.rest.length < ·)

def readToken (scripts : ScriptReaders) (accepting : Accepting) : Nat → Parse Token
  | 0 => return .endOfFile
  | fuel + 1 => do
    let token ← readPlainToken scripts accepting.setting
    match token with
    | .newline =>
      if accepting.skipsNewlines then
        readDocuments scripts
        readToken scripts accepting fuel
      else return token
    | .word word false =>
      match word.plain? with
      | none => return token
      | some text =>
        match if accepting.keywords then Keyword.ofText? text else none with
        | some keyword => return .keyword keyword
        | none =>
          let reader ← get
          let follows := followsAlias reader
          if follows then set { reader with afterAlias := none }
          match if accepting.aliases || follows then alias? reader text else none with
          | some value =>
            set (expandAlias reader text value)
            readToken scripts accepting fuel
          | none => return token
    | _ => return token

def nextToken (scripts : ScriptReaders) (accepting : Accepting) : Parse Token := do
  readToken scripts accepting ((← get).rest.length + 2)

/-! ### Commands -/

def readTarget (scripts : ScriptReaders) (descriptor : Nat) (arrow : Arrow) :
    Parse Redirection := do
  let setting : Setting := match arrow with
    | .document _ => .mark
    | _ => .script
  match ← nextToken scripts { setting } with
  | .word word quoted =>
    match arrow with
    | .file access => return .mk descriptor (.file access word)
    | .replaced => return .mk descriptor (.replaced word)
    | .copy => return .mk descriptor (.copy word)
    | .document stripsTabs =>
      let number := (← get).nextDocument
      let awaited : Awaited := { number, mark := word.unquoted, stripsTabs, quoted }
      modify fun reader => { reader with
        awaited := reader.awaited ++ [awaited]
        nextDocument := number + 1 }
      return .mk descriptor (.document number)
  | token => unexpected token

def readRedirections (scripts : ScriptReaders) : Nat → Parse (List Redirection)
  | 0 => return []
  | fuel + 1 => do
    match ← nextToken scripts { keywords := true, aliases := true } with
    | .redirection descriptor arrow =>
      let redirection ← readTarget scripts descriptor arrow
      return redirection :: (← readRedirections scripts fuel)
    | token =>
      unreadToken token
      return []

def redirect (line : Nat) (redirections : List Redirection) (body : Command) : Command :=
  if redirections.isEmpty then body
  else
    match body with
    | .subshell line inner _ => .subshell line inner redirections
    | _ => .redirected line body redirections

def reservedNames : List String :=
  [".", ":", "break", "continue", "eval", "exec", "exit", "export", "local", "readonly", "return",
    "set", "shift", "times", "trap", "unset"]

structure SimpleParts where
  assignments : List Word := []
  words : List Word := []
  redirections : List Redirection := []

/-- Reads a simple command; assignments come before the first word. A parenthesis after the first
word begins the definition of a function. -/
def readSimple (scripts : ScriptReaders) (readBody : Parse Command) (line : Nat) :
    Nat → SimpleParts → Parse Command
  | 0, parts => return .simple line parts.assignments parts.words parts.redirections
  | fuel + 1, parts => do
    let token ← nextToken scripts { aliases := parts.words.isEmpty }
    match token with
    | .word word _ =>
      let parts :=
        if parts.words.isEmpty && word.assignment?.isSome then
          { parts with assignments := parts.assignments ++ [word] }
        else { parts with words := parts.words ++ [word] }
      readSimple scripts readBody line fuel parts
    | .redirection descriptor arrow =>
      let redirection ← readTarget scripts descriptor arrow
      readSimple scripts readBody line fuel
        { parts with redirections := parts.redirections ++ [redirection] }
    | .open =>
      match parts.words, parts.assignments, parts.redirections with
      | [word], [], [] =>
        match ← nextToken scripts {} with
        | .close =>
          let name := (word.plain?).getD []
          if !isName name || String.ofList name ∈ reservedNames then refuse "Bad function name"
          let line := (← get).line
          return .define line name (← readBody)
        | token => unexpected token (some .close)
      | _, _, _ =>
        unreadToken .open
        return .simple line parts.assignments parts.words parts.redirections
    | token =>
      unreadToken token
      return .simple line parts.assignments parts.words parts.redirections

def readLoopWords (scripts : ScriptReaders) : Nat → Parse (List Word)
  | 0 => return []
  | fuel + 1 => do
    match ← nextToken scripts {} with
    | .word word _ => return word :: (← readLoopWords scripts fuel)
    | .newline | .semicolon => return []
    | token => unexpected token

/-- Reads the patterns of an arm, of which the first token is read already, up to the closing
parenthesis. -/
def readPatterns (scripts : ScriptReaders) : Nat → Token → Parse (List Word)
  | 0, _ => return []
  | fuel + 1, token => do
    let word : Word ← match token with
      | .word word _ => pure word
      | .keyword keyword => pure (Word.ofOctets keyword.text.toList)
      | _ => pure []
    match ← nextToken scripts {} with
    | .pipe =>
      let token ← nextToken scripts {}
      return word :: (← readPatterns scripts fuel token)
    | .close => return [word]
    | token => unexpected token (some .close)

inductive ListKind where
  | line
  /-- At a word that closes something; the list must not be empty. -/
  | nested
  | nestedOrEmpty
deriving DecidableEq

def ListKind.accepting (kind : ListKind) : Accepting :=
  { Accepting.command with skipsNewlines := kind ≠ .line }

def expectKeyword (scripts : ScriptReaders) (keyword : Keyword) (accepting : Accepting := {}) :
    Parse Unit := do
  match ← nextToken scripts accepting with
  | .keyword found =>
    if found ≠ keyword then unexpected (.keyword found) (some (.keyword keyword))
  | token => unexpected token (some (.keyword keyword))

mutual

/-- Reads a list of commands. At the end of a file, a list on a line of its own is no command. -/
def readList : Nat → ListKind → Option Command → Parse (Option Command)
  | 0, _, _ => refuse "Script is nested too deeply"
  | fuel + 1, kind, before? => do
    let scripts := scriptReaders fuel
    let token ← nextToken scripts kind.accepting
    match token with
    | .newline =>
      readDocuments scripts
      return some (before?.getD .nothing)
    | .endOfFile =>
      readDocuments scripts
      unreadToken .endOfFile
      return if kind = .line then before? else some (before?.getD .nothing)
    | _ =>
      unreadToken token
      let mayEnd := kind = .nestedOrEmpty || (kind = .nested && before?.isSome)
      if mayEnd && token.endsList then return some (before?.getD .nothing)
      else readItem fuel kind before?

def readItem : Nat → ListKind → Option Command → Parse (Option Command)
  | 0, _, _ => refuse "Script is nested too deeply"
  | fuel + 1, kind, before? => do
    let scripts := scriptReaders fuel
    let command ← readAndOr fuel
    let join (command : Command) : Command := match before? with
      | some before => .sequence before command
      | none => command
    match ← nextToken scripts {} with
    | .endOfFile =>
      readDocuments scripts
      unreadToken .endOfFile
      return some (join command)
    | .newline =>
      unreadToken .newline
      readList fuel kind (some (join command))
    | .semicolon => readList fuel kind (some (join command))
    | .ampersand => readList fuel kind (some (join (.background command)))
    | token =>
      if kind = .line then unexpected token
      else
        unreadToken token
        return some (join command)

def readAndOr : Nat → Parse Command
  | 0 => refuse "Script is nested too deeply"
  | fuel + 1 => do readAndOrAfter fuel (← readPipeline fuel {})

def readAndOrAfter : Nat → Command → Parse Command
  | 0, _ => refuse "Script is nested too deeply"
  | fuel + 1, first => do
    match ← nextToken (scriptReaders fuel) {} with
    | .and => readAndOrAfter fuel (.both first (← readPipeline fuel .command))
    | .or => readAndOrAfter fuel (.either first (← readPipeline fuel .command))
    | token =>
      unreadToken token
      return first

def readPipeline : Nat → Accepting → Parse Command
  | 0, _ => refuse "Script is nested too deeply"
  | fuel + 1, accepting => do
    let scripts := scriptReaders fuel
    let inner : Accepting := { keywords := true, aliases := true }
    match ← nextToken scripts accepting with
    | .keyword .bang =>
      return .negated (← readPipes fuel inner [])
    | token =>
      unreadToken token
      readPipes fuel {} []

def readPipes : Nat → Accepting → List Command → Parse Command
  | 0, _, _ => refuse "Script is nested too deeply"
  | fuel + 1, accepting, before => do
    let command ← readCommand fuel accepting
    match ← nextToken (scriptReaders fuel) {} with
    | .pipe => readPipes fuel .command (before ++ [command])
    | token =>
      unreadToken token
      return if before.isEmpty then command else .piped (before ++ [command])

def readCommand : Nat → Accepting → Parse Command
  | 0, _ => refuse "Script is nested too deeply"
  | fuel + 1, accepting => do
    let scripts := scriptReaders fuel
    let line := (← get).line
    let token ← nextToken scripts accepting
    let withRedirections (body : Command) : Parse Command := do
      return redirect line (← readRedirections scripts (← supply)) body
    match token with
    | .keyword .ifTrue =>
      let body ← readBranch fuel
      expectKeyword scripts .fi
      withRedirections body
    | .keyword .whileTrue => withRedirections (← readLoop fuel false)
    | .keyword .untilTrue => withRedirections (← readLoop fuel true)
    | .keyword .forEach => withRedirections (← readEach fuel line)
    | .keyword .caseOf => withRedirections (← readChoice fuel line)
    | .keyword .openBrace =>
      let body ← readNested fuel
      expectKeyword scripts .closeBrace
      withRedirections body
    | .open =>
      let body ← readNested fuel
      match ← nextToken scripts {} with
      | .close => withRedirections (.subshell line body [])
      | token => unexpected token (some .close)
    | .word .. | .redirection .. =>
      unreadToken token
      let line := (← get).line
      readSimple scripts (readCommand fuel .command) line ((← supply) + 1) {}
    | _ => unexpected token

def readNested : Nat → Parse Command
  | 0 => refuse "Script is nested too deeply"
  | fuel + 1 => do return (← readList fuel .nested none).getD .nothing

/-- Reads what follows the word that opens a branch, up to the word that closes it. -/
def readBranch : Nat → Parse Command
  | 0 => refuse "Script is nested too deeply"
  | fuel + 1 => do
    let scripts := scriptReaders fuel
    let condition ← readNested fuel
    expectKeyword scripts .thenBody
    let yes ← readNested fuel
    match ← nextToken scripts {} with
    | .keyword .elseIf => return .branch condition yes (← readBranch fuel)
    | .keyword .otherwise => return .branch condition yes (← readNested fuel)
    | token =>
      unreadToken token
      return .branch condition yes .nothing

def readLoop : Nat → Bool → Parse Command
  | 0, _ => refuse "Script is nested too deeply"
  | fuel + 1, untilTrue => do
    let scripts := scriptReaders fuel
    let condition ← readNested fuel
    expectKeyword scripts .doBody
    let body ← readNested fuel
    expectKeyword scripts .done
    return .loop untilTrue condition body

def readEach : Nat → Nat → Parse Command
  | 0, _ => refuse "Script is nested too deeply"
  | fuel + 1, line => do
    let scripts := scriptReaders fuel
    let name? := match ← nextToken scripts {} with
      | .word word false => word.plain?.filter isName
      | _ => none
    match name? with
    | none => refuse "Bad for loop variable"
    | some name =>
      let words ← match ← nextToken scripts .command with
        | .keyword .inList => readLoopWords scripts (← supply)
        | .semicolon => pure [Word.arguments]
        | token =>
          unreadToken token
          pure [Word.arguments]
      expectKeyword scripts .doBody .command
      let body ← readNested fuel
      expectKeyword scripts .done
      return .each line name words body

def readChoice : Nat → Nat → Parse Command
  | 0, _ => refuse "Script is nested too deeply"
  | fuel + 1, line => do
    let scripts := scriptReaders fuel
    match ← nextToken scripts {} with
    | .word subject _ =>
      expectKeyword scripts .inList .command
      return .choice line subject (← readArms fuel)
    | token => unexpected token (some (.word [] false))

def readArms : Nat → Parse (List (List Word × Command))
  | 0 => refuse "Script is nested too deeply"
  | fuel + 1 => do
    let scripts := scriptReaders fuel
    let between : Accepting := { skipsNewlines := true, keywords := true }
    match ← nextToken scripts between with
    | .keyword .esac => return []
    | token =>
      let first ← match token with
        | .open => nextToken scripts {}
        | _ => pure token
      let patterns ← readPatterns scripts (← supply) first
      let body := (← readList fuel .nestedOrEmpty none).getD .nothing
      match ← nextToken scripts between with
      | .keyword .esac => return [(patterns, body)]
      | .doubleSemicolon => return (patterns, body) :: (← readArms fuel)
      | token => unexpected token (some .doubleSemicolon)

def scriptReaders : Nat → ScriptReaders
  | 0 => {
      enclosed := refuse "Script is nested too deeply"
      whole := fun _ => refuse "Script is nested too deeply" }
  | fuel + 1 => {
      enclosed := do
        let awaited := (← get).awaited
        modify fun reader => { reader with awaited := [] }
        let command := (← readList fuel .nestedOrEmpty none).getD .nothing
        match ← nextToken (scriptReaders fuel) {} with
        | .close =>
          readDocuments (scriptReaders fuel)
          modify fun reader => { reader with awaited, unread := none }
          return command
        | token => unexpected token (some .close)
      whole := fun text => do
        let outside ← get
        set { outside with
          rest := text, line := 1, unread := none, awaited := [], inAlias := [] }
        let command := (← readList fuel .nestedOrEmpty none).getD .nothing
        readDocuments (scriptReaders fuel)
        modify fun inside => { outside with
          documents := inside.documents, nextDocument := inside.nextDocument, unread := none }
        return command }

end

/-- Reads one complete command; there is none at the end of the file. -/
def readComplete : Parse (Option Command) := do
  modify fun reader => { reader with unread := none, awaited := [] }
  readList (20 * (← supply) + 50) .line none

def atEnd (reader : Reader) : Bool :=
  match reader.unread with
  | some .endOfFile => true
  | _ => false

end VersionGate.Sandbox.Shell.Reader
