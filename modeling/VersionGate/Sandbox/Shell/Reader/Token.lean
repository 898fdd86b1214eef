import VersionGate.Sandbox.Shell.Options
import VersionGate.Sandbox.Shell.Syntax

namespace VersionGate.Sandbox.Shell

inductive Keyword where
  | bang
  | caseOf
  | doBody
  | done
  | elseIf
  | otherwise
  | esac
  | fi
  | forEach
  | ifTrue
  | inList
  | thenBody
  | untilTrue
  | whileTrue
  | openBrace
  | closeBrace
deriving DecidableEq

namespace Keyword

def spellings : List (String × Keyword) :=
  [("!", bang), ("case", caseOf), ("do", doBody), ("done", done), ("elif", elseIf),
    ("else", otherwise), ("esac", esac), ("fi", fi), ("for", forEach), ("if", ifTrue),
    ("in", inList), ("then", thenBody), ("until", untilTrue), ("while", whileTrue),
    ("\x7b", openBrace), ("\x7d", closeBrace)]

def ofText? (text : Octets) : Option Keyword :=
  spellings.lookup (String.ofList text)

def text (keyword : Keyword) : String :=
  ((spellings.find? (·.2 = keyword)).map (·.1)).getD ""

def endsList : Keyword → Bool
  | doBody | done | elseIf | otherwise | esac | fi | thenBody | closeBrace => true
  | _ => false

end Keyword

inductive Arrow where
  | file (access : Access)
  | replaced
  | copy
  | document (stripsTabs : Bool)
deriving DecidableEq

inductive Token where
  | endOfFile
  | newline
  | semicolon
  | ampersand
  | and
  | or
  | pipe
  | open
  | close
  | doubleSemicolon
  | redirection (descriptor : Nat) (arrow : Arrow)
  | word (word : Word) (quoted : Bool)
  | keyword (keyword : Keyword)

namespace Token

def text : Token → String
  | endOfFile => "end of file"
  | newline => "newline"
  | semicolon => "\";\""
  | ampersand => "\"&\""
  | and => "\"&&\""
  | or => "\"||\""
  | pipe => "\"|\""
  | Token.open => "\"(\""
  | close => "\")\""
  | doubleSemicolon => "\";;\""
  | redirection .. => "redirection"
  | word .. => "word"
  | keyword k => "\"" ++ k.text ++ "\""

def endsList : Token → Bool
  | endOfFile | close | doubleSemicolon => true
  | keyword k => k.endsList
  | _ => false

end Token

structure Awaited where
  number : Nat
  mark : Octets
  stripsTabs : Bool
  quoted : Bool

structure SyntaxFault where
  line : Nat
  message : Octets

structure Reader where
  rest : List Char
  line : Nat := 1
  dialect : Dialect := .posix
  /-- A token that has been read but not used. -/
  unread : Option Token := none
  awaited : List Awaited := []
  documents : List (Nat × Word) := []
  nextDocument : Nat := 0
  aliases : List (Octets × Octets) := []
  /-- The aliases whose text is being read, with the length of what comes after it. -/
  inAlias : List (Octets × Nat) := []
  afterAlias : Option Nat := none

abbrev Parse := ExceptT SyntaxFault (StateM Reader)

namespace Reader

def refuse {α : Type} (message : String) : Parse α := do
  throw { line := (← get).line, message := message.toList }

def joinLines (reader : Reader) : Reader :=
  let rec go : List Char → Nat → List Char × Nat
    | '\\' :: '\n' :: rest, line => go rest (line + 1)
    | rest, line => (rest, line)
  let (rest, line) := go reader.rest reader.line
  { reader with rest, line }

def peekRaw : Parse (Option Char) := do
  return (← get).rest.head?

def peek : Parse (Option Char) := do
  modify joinLines
  peekRaw

def drop : Parse Unit :=
  modify fun reader =>
    if reader.rest.head? = some '\n' then
      { reader with rest := reader.rest.tail, line := reader.line + 1 }
    else { reader with rest := reader.rest.tail }

def dropIf (c : Char) : Parse Bool := do
  if (← peek) = some c then
    drop
    return true
  else return false

def takeWhile (belongs : Char → Bool) : Nat → Parse (List Char)
  | 0 => return []
  | fuel + 1 => do
    match ← peek with
    | some c =>
      if belongs c then
        drop
        return c :: (← takeWhile belongs fuel)
      else return []
    | none => return []

def supply : Parse Nat := do
  return (← get).rest.length + 1

structure ScriptReaders where
  enclosed : Parse Command
  whole : List Char → Parse Command

end Reader

end VersionGate.Sandbox.Shell
