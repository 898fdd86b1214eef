import VersionGate.Report.Json

/-!
Reading JSON.

The reader knows objects whose members are strings and booleans. It takes a text one character at a time
and finds the tokens in it; the members are then taken from the tokens. In a string it undoes every escape
of the format, also those that are never written here, and refuses what the format does: control
characters, unknown escapes, and one half of a pair of code units without the other.

What was written as a string is read as the same string whatever stands in it, because each character is
read back from its written form alone and leaves the reader where it was (`tokens?_encodeChar`).
-/

namespace VersionGate.Json

inductive Value where
  | text (text : String)
  | bool (value : Bool)
deriving DecidableEq

/-- What the text of an object consists of, spaces apart. -/
inductive Token where
  | opening
  | closing
  | colon
  | comma
  | value (value : Value)
deriving DecidableEq

/-- The character that a backslash and another character stand for. -/
def namedEscape? : Char → Option Char
  | '"' => some '"'
  | '\\' => some '\\'
  | '/' => some '/'
  | 'b' => some '\x08'
  | 'f' => some '\x0c'
  | 'n' => some '\n'
  | 'r' => some '\r'
  | 't' => some '\t'
  | _ => none

def hexDigitValue? (c : Char) : Option Nat :=
  if '0' ≤ c ∧ c ≤ '9' then some (c.toNat - 0x30)
  else if 'a' ≤ c ∧ c ≤ 'f' then some (c.toNat - 0x61 + 10)
  else if 'A' ≤ c ∧ c ≤ 'F' then some (c.toNat - 0x41 + 10)
  else none

/-- Where the reader stands in a string. -/
inductive Place where
  | plain
  | escape
  /-- In a code unit that needs `missing` further digits; `first?` is the half that it has to complete. -/
  | unit (first? : Option Nat) (missing code : Nat)
  /-- After the first half of a pair of code units. -/
  | half (first : Nat)
  /-- After the first half of a pair and the backslash of the second. -/
  | halfEscape (first : Nat)
deriving DecidableEq

namespace Place

/-- Takes a code unit: it is a character, the first half of a pair, or the second one. -/
def takeUnit (first? : Option Nat) (code : Nat) : Option (List Char × Place) :=
  let isSecond := 0xDC00 ≤ code ∧ code < 0xE000
  match first? with
  | some first =>
    if isSecond then
      some ([Char.ofNat (0x10000 + (first - 0xD800) * 0x400 + (code - 0xDC00))], plain)
    else none
  | none =>
    if isSecond then none
    else if 0xD800 ≤ code ∧ code < 0xDC00 then some ([], half code)
    else some ([Char.ofNat code], plain)

/-- Takes a character of a string, but not the quote that ends it: the characters that it completes and
the place after it. -/
def step : Place → Char → Option (List Char × Place)
  | plain, c =>
    if c = '\\' then some ([], escape) else if c < ' ' then none else some ([c], plain)
  | escape, c =>
    if c = 'u' then some ([], unit none 4 0)
    else (namedEscape? c).map fun named => ([named], plain)
  | unit first? missing code, c =>
    (hexDigitValue? c).bind fun digit =>
      if missing ≤ 1 then takeUnit first? (code * 16 + digit)
      else some ([], unit first? (missing - 1) (code * 16 + digit))
  | half first, c => if c = '\\' then some ([], halfEscape first) else none
  | halfEscape first, c => if c = 'u' then some ([], unit (some first) 4 0) else none

end Place

/-- Where the reader stands in a text. -/
inductive Reader where
  | between
  /-- In the name of a truth value, of which some letters are missing. -/
  | name (value : Bool) (missing : List Char)
  /-- In a string of which some characters have been read. -/
  | string (place : Place) (read : List Char)

namespace Reader

def isSpace (c : Char) : Bool :=
  c = ' ' || c = '\t' || c = '\n' || c = '\r'

/-- Takes a character between two tokens: a token of its own, the start of a longer one, or a space. -/
def start (c : Char) : Option (List Token × Reader) :=
  if isSpace c then some ([], between)
  else
    match c with
    | '\x7b' => some ([.opening], between)
    | '\x7d' => some ([.closing], between)
    | ':' => some ([.colon], between)
    | ',' => some ([.comma], between)
    | '"' => some ([], string .plain [])
    | 't' => some ([], name true ['r', 'u', 'e'])
    | 'f' => some ([], name false ['a', 'l', 's', 'e'])
    | _ => none

/-- Takes a character: the token that it completes, if there is one, and where the reader is then. -/
def step : Reader → Char → Option (List Token × Reader)
  | between, c => start c
  | name value missing, c =>
    if missing = [c] then some ([.value (.bool value)], between)
    else if missing.head? = some c then some ([], name value missing.tail)
    else none
  | string place read, c =>
    if place = .plain ∧ c = '"' then some ([.value (.text (String.ofList read))], between)
    else (place.step c).map fun (chars, next) => ([], string next (read ++ chars))

/-- The tokens of a text. It must not end within a token. -/
def tokens? : Reader → List Char → Option (List Token)
  | between, [] => some []
  | _, [] => none
  | reader, c :: rest =>
    (reader.step c).bind fun (found, next) => (next.tokens? rest).map (found ++ ·)

end Reader

def members? : List Token → Option (List (String × Value))
  | [.value (.text name), .colon, .value value, .closing] => some [(name, value)]
  | .value (.text name) :: .colon :: .value value :: .comma :: rest =>
    (members? rest).map ((name, value) :: ·)
  | _ => none

def object? : List Token → Option (List (String × Value))
  | [.opening, .closing] => some []
  | .opening :: rest => members? rest
  | _ => none

/-- The members of the object that a text stands for, in their order. -/
def read? (text : String) : Option (List (String × Value)) :=
  (Reader.between.tokens? text.toList).bind object?

def memberTokens : String × Value → List Token
  | (name, value) => [.value (.text name), .colon, .value value]

def objectTokens (members : List (String × Value)) : List Token :=
  [.opening] ++ [.comma].intercalate (members.map memberTokens) ++ [.closing]

def Value.written : Value → String
  | text value => Json.string value
  | bool value => Json.bool value

def writtenMember : String × Value → String × String
  | (name, value) => (name, value.written)

def memberText : String × Value → String
  | (name, value) => "  " ++ Json.string name ++ ": " ++ value.written

theorem object_eq_memberText (members : List (String × Value)) :
    object (members.map writtenMember) =
      "\x7b\n" ++ ",\n".intercalate (members.map memberText) ++ "\n\x7d" := by
  rw [object, List.map_map]
  rfl

/-! ### What is read of a written text -/

theorem hexDigitsWide_of_control : ∀ code < 0x20, Text.hexDigitsWide 4 code =
    ['0', '0', Nat.digitChar (code / 16), Nat.digitChar (code % 16)] := by
  decide

theorem hexDigitValue?_digitChar :
    ∀ digit < 16, hexDigitValue? (Nat.digitChar digit) = some digit := by
  decide

theorem Place.takeUnit_of_control {code : Nat} (control : code < 0x20) :
    takeUnit none code = some ([Char.ofNat code], plain) := by
  have notSecond : ¬ (0xDC00 ≤ code ∧ code < 0xE000) := by omega
  have notFirst : ¬ (0xD800 ≤ code ∧ code < 0xDC00) := by omega
  simp only [takeUnit, if_neg notSecond, if_neg notFirst]

theorem Place.step_unit {first? : Option Nat} {missing code digit : Nat} {c : Char}
    (digits : hexDigitValue? c = some digit) :
    (unit first? missing code).step c =
      if missing ≤ 1 then takeUnit first? (code * 16 + digit)
      else some ([], unit first? (missing - 1) (code * 16 + digit)) := by
  simp only [step, digits, Option.bind_some]

namespace Reader

variable {c : Char} {place after : Place} {chars read : List Char}

/-- Inside a string only a quote between two characters ends it. -/
theorem tokens?_string (inside : place ≠ .plain ∨ c ≠ '"')
    (taken : place.step c = some (chars, after)) (rest : List Char) :
    (string place read).tokens? (c :: rest) = (string after (read ++ chars)).tokens? rest := by
  have goesOn : ¬ (place = .plain ∧ c = '"') := by
    rintro ⟨plain, quote⟩
    exact inside.elim (· plain) (· quote)
  simp [tokens?, step, goesOn, taken]

theorem tokens?_backslash (rest : List Char) :
    (string .plain read).tokens? ('\\' :: rest) = (string .escape read).tokens? rest := by
  rw [tokens?_string (.inr (by decide)) rfl, List.append_nil]

theorem tokens?_named {named : Char} (names : namedEscape? c = some named) (other : c ≠ 'u')
    (rest : List Char) : (string .plain read).tokens? ('\\' :: c :: rest) =
      (string .plain (read ++ [named])).tokens? rest := by
  have taken : Place.escape.step c = some ([named], .plain) := by
    simp [Place.step, other, names]
  rw [tokens?_backslash, tokens?_string (.inl (by decide)) taken]

theorem tokens?_digit {first? : Option Nat} {missing code digit : Nat} (more : 1 < missing)
    (digits : hexDigitValue? c = some digit) (rest : List Char) :
    (string (.unit first? missing code) read).tokens? (c :: rest) =
      (string (.unit first? (missing - 1) (code * 16 + digit)) read).tokens? rest := by
  have taken : (Place.unit first? missing code).step c =
      some ([], .unit first? (missing - 1) (code * 16 + digit)) := by
    rw [Place.step_unit digits, if_neg (Nat.not_le.mpr more)]
  rw [tokens?_string (.inl (by simp)) taken, List.append_nil]

theorem tokens?_control {code : Nat} (control : code < 0x20) (rest : List Char) :
    (string .plain read).tokens? ('\\' :: 'u' :: (Text.hexDigitsWide 4 code ++ rest)) =
      (string .plain (read ++ [Char.ofNat code])).tokens? rest := by
  have zero : hexDigitValue? '0' = some 0 := by decide
  have high := hexDigitValue?_digitChar (code / 16) (by omega)
  have low := hexDigitValue?_digitChar (code % 16) (by omega)
  have value : code / 16 * 16 + code % 16 = code := by omega
  have taken : (Place.unit none 1 (code / 16)).step (Nat.digitChar (code % 16)) =
      some ([Char.ofNat code], .plain) := by
    rw [Place.step_unit low, if_pos (Nat.le_refl 1), value, Place.takeUnit_of_control control]
  have opening : Place.escape.step 'u' = some ([], .unit none 4 0) := rfl
  rw [hexDigitsWide_of_control code control, tokens?_backslash,
    tokens?_string (.inl (by decide)) opening]
  simp only [List.cons_append, List.nil_append, List.append_nil]
  rw [tokens?_digit (by decide) zero, tokens?_digit (by decide) zero, tokens?_digit (by decide) high]
  simpa using tokens?_string (.inl (by simp)) taken rest

/-- A character is read back from its written form, which leaves the reader where it was. -/
theorem tokens?_encodeChar (c : Char) (read rest : List Char) :
    (string .plain read).tokens? (encodeChar c ++ rest) =
      (string .plain (read ++ [c])).tokens? rest := by
  unfold encodeChar
  split
  case h_8 =>
    rename_i notQuote notBackslash _ _ _ _ _
    split
    · rename_i control
      have taken : (string .plain read).tokens?
          ('\\' :: 'u' :: (Text.hexDigitsWide 4 c.toNat ++ rest)) =
            (string .plain (read ++ [Char.ofNat c.toNat])).tokens? rest :=
        tokens?_control control rest
      rwa [Char.ofNat_toNat] at taken
    · rename_i visible
      have taken : Place.plain.step c = some ([c], .plain) := by
        have other : ¬ c = '\\' := notBackslash
        simp [Place.step, other, visible]
      exact tokens?_string (.inr notQuote) taken rest
  all_goals exact tokens?_named rfl (by decide) rest

/-- A text between two quotes is one token, whatever stands in it. -/
theorem tokens?_chars (text read rest : List Char) :
    (string .plain read).tokens? (text.flatMap encodeChar ++ '"' :: rest) =
      (between.tokens? rest).map (.value (.text (String.ofList (read ++ text))) :: ·) := by
  induction text generalizing read with
  | nil => simp [tokens?, step]
  | cons c text ih =>
    rw [List.flatMap_cons, List.append_assoc, tokens?_encodeChar, ih, List.append_assoc,
      List.singleton_append]

/-- What the reader makes of `text` between two tokens are `tokens`, whatever follows the text. -/
def Reads (text : List Char) (tokens : List Token) : Prop :=
  ∀ rest, between.tokens? (text ++ rest) = (between.tokens? rest).map (tokens ++ ·)

namespace Reads

variable {text first second : List Char} {tokens firsts seconds : List Token}

theorem tokens? (reads : Reads text tokens) : between.tokens? text = some tokens := by
  have whole := reads []
  simpa [Reader.tokens?] using whole

theorem append (one : Reads first firsts) (other : Reads second seconds) :
    Reads (first ++ second) (firsts ++ seconds) := by
  intro rest
  rw [List.append_assoc, one, other, Option.map_map]
  simp only [Function.comp_def, List.append_assoc]

theorem single {found : List Token} (starts : start c = some (found, between)) :
    Reads [c] found := by
  intro rest
  simp [Reader.tokens?, step, starts]

theorem encodeText (text : List Char) :
    Reads (encodeText text) [.value (.text (String.ofList text))] := by
  intro rest
  have opened : between.tokens? (Json.encodeText text ++ rest) =
      (string .plain []).tokens? (text.flatMap encodeChar ++ '"' :: rest) := by
    simp [Json.encodeText, Reader.tokens?, step, start, isSpace]
  rw [opened, tokens?_chars, List.nil_append]
  rfl

theorem bool (value : Bool) : Reads (Json.bool value).toList [.value (.bool value)] := by
  intro rest
  cases value <;> simp [Json.bool, Reader.tokens?, step, start, isSpace, Function.comp_def]

theorem string (text : String) : Reads (Json.string text).toList [.value (.text text)] := by
  have reads := encodeText text.toList
  rwa [String.ofList_toList, ← String.toList_ofList (l := Json.encodeText text.toList)] at reads

theorem written (value : Value) : Reads value.written.toList [.value value] := by
  cases value with
  | text text => exact string text
  | bool value => exact bool value

theorem intercalate {α : Type} {separator : String} {separated : List Token} {text : α → String}
    {tokens : α → List Token} (separates : Reads separator.toList separated)
    (reads : ∀ entry, Reads (text entry).toList (tokens entry)) (entries : List α) :
    Reads (separator.intercalate (entries.map text)).toList
      (separated.intercalate (entries.map tokens)) := by
  induction entries with
  | nil => exact fun rest => by simp
  | cons entry entries ih =>
    cases entries with
    | nil => simpa using reads entry
    | cons next entries =>
      have joined := ((reads entry).append separates).append ih
      simpa only [List.map_cons, String.intercalate_cons_cons, List.intercalate_cons_cons,
        String.toList_append] using joined

theorem member (member : String × Value) :
    Reads (memberText member).toList (memberTokens member) := by
  obtain ⟨name, value⟩ := member
  have indent : Reads "  ".toList [] := (single (c := ' ') rfl).append (single (c := ' ') rfl)
  have colon : Reads ": ".toList [.colon] := (single (c := ':') rfl).append (single (c := ' ') rfl)
  have line := ((indent.append (string name)).append colon).append (written value)
  simpa only [memberText, memberTokens, String.toList_append, List.nil_append,
    List.singleton_append, List.cons_append] using line

theorem object (members : List (String × Value)) :
    Reads (Json.object (members.map writtenMember)).toList
      (objectTokens members) := by
  have opening : Reads "\x7b\n".toList [.opening] :=
    (single (c := '\x7b') rfl).append (single (c := '\n') rfl)
  have separator : Reads ",\n".toList [.comma] :=
    (single (c := ',') rfl).append (single (c := '\n') rfl)
  have closing : Reads "\n\x7d".toList [.closing] :=
    (single (c := '\n') rfl).append (single (c := '\x7d') rfl)
  have whole := (opening.append (intercalate separator member members)).append closing
  rw [object_eq_memberText]
  simpa only [objectTokens, String.toList_append] using whole

end Reads

end Reader

theorem members?_tokens {members : List (String × Value)} (nonempty : members ≠ []) :
    members? ([.comma].intercalate (members.map memberTokens) ++ [.closing]) = some members := by
  induction members with
  | nil => exact absurd rfl nonempty
  | cons member members ih =>
    cases members with
    | nil => rfl
    | cons next members =>
      have others := ih (List.cons_ne_nil next members)
      change (members? ([.comma].intercalate ((next :: members).map memberTokens) ++ [.closing])).map
        (member :: ·) = _
      rw [others, Option.map_some]

/-- The members of an object are read back from its written form, names and values as they were. -/
theorem read?_object (members : List (String × Value)) :
    read? (object (members.map writtenMember)) = some members := by
  rw [read?, (Reader.Reads.object members).tokens?, Option.bind_some]
  cases members with
  | nil => rfl
  | cons member members =>
    have found := members?_tokens (List.cons_ne_nil member members)
    cases members <;> exact found

example : read? "\x7b \"a\" : \"\\ud83d\\uDE00\\/\" \x7d" = some [("a", .text "😀/")] := by
  decide +kernel

example : read? "\x7b\"a\": \"\n\"\x7d" = none := by
  decide +kernel

end VersionGate.Json
