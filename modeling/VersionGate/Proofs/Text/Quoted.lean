import VersionGate.Proofs.Json.Reader
import VersionGate.Text.Quoted

/-!
Reading quoted text.

The reader takes what stands between two quotes, one character at a time, and undoes the escapes in it. It
refuses the characters that the format never shows as themselves, and so whatever it can read is inert: it
holds no line break and no quote that could be taken for the closing one (`inert_of_decode`).

Each character is read back from its written form alone, which leaves the reader where it was
(`read?_encodeChar`). A text that looks like an escape is no exception, since its backslash is written as
two.
-/

namespace VersionGate.Text.Quoted

open Json (hexDigitValue? hexDigitValue?_digitChar)

/-- The characters that are written as a backslash and another character, the backslash itself apart. -/
def delimiters : List Char :=
  ['\x00', '\t', '\n', '\r', '"']

def namedEscape? : Char → Option Char
  | '0' => some '\x00'
  | 't' => some '\t'
  | 'n' => some '\n'
  | 'r' => some '\r'
  | '"' => some '"'
  | '\\' => some '\\'
  | _ => none

/-- Where the reader stands. -/
inductive Place where
  | plain
  | escape
  | opening
  | code (value : Nat)
deriving DecidableEq

/-- Takes a character: the characters that it completes and the place after it. -/
def Place.step : Place → Char → Option (List Char × Place)
  | plain, c =>
    if c = '\\' then some ([], escape) else if c ∈ delimiters then none else some ([c], plain)
  | escape, c =>
    if c = 'u' then some ([], opening) else (namedEscape? c).map fun named => ([named], plain)
  | opening, c => if c = '\x7b' then some ([], code 0) else none
  | code value, c =>
    if c = '\x7d' then if value.isValidChar then some ([Char.ofNat value], plain) else none
    else (hexDigitValue? c).map fun digit => ([], code (value * 16 + digit))

/-- What the reader makes of a text from some place on. It must not end within an escape. -/
def read? : Place → List Char → Option (List Char)
  | .plain, [] => some []
  | _, [] => none
  | place, c :: rest => (place.step c).bind fun (chars, next) => (read? next rest).map (chars ++ ·)

/-- The text that was written as `body`, between two quotes. -/
def decode (body : List Char) : Option (List Char) :=
  read? .plain body

/-- A quote that no backslash escapes is in the text. -/
inductive ShowsQuote : List Char → Prop where
  | here (rest : List Char) : ShowsQuote ('"' :: rest)
  | later {c : Char} {rest : List Char} (bare : c ≠ '\\') (shown : ShowsQuote rest) :
      ShowsQuote (c :: rest)
  | escaped (c : Char) {rest : List Char} (shown : ShowsQuote rest) : ShowsQuote ('\\' :: c :: rest)

section Reader

variable {place next : Place} {c : Char} {chars rest body : List Char}

theorem read?_cons (taken : place.step c = some (chars, next)) (rest : List Char) :
    read? place (c :: rest) = (read? next rest).map (chars ++ ·) := by
  simp [read?, taken]

/-- What the reader can read it takes one character after another. -/
theorem exists_step {text : List Char} (read : read? place (c :: rest) = some text) :
    ∃ chars next later, place.step c = some (chars, next) ∧ read? next rest = some later := by
  cases taken : place.step c with
  | none => simp [read?, taken] at read
  | some result =>
      obtain ⟨chars, next⟩ := result
      rw [read?_cons taken, Option.map_eq_some_iff] at read
      obtain ⟨later, read, -⟩ := read
      exact ⟨chars, next, later, rfl, read⟩

theorem read?_named {named : Char} (names : namedEscape? c = some named) (other : c ≠ 'u')
    (rest : List Char) : read? .plain ('\\' :: c :: rest) = (read? .plain rest).map (named :: ·) := by
  have opened : Place.plain.step '\\' = some ([], .escape) := rfl
  have taken : Place.escape.step c = some ([named], .plain) := by simp [Place.step, other, names]
  rw [read?_cons opened, read?_cons taken, Option.map_map]
  rfl

theorem step_digit {value digit : Nat} (bound : digit < 16) :
    (Place.code value).step (Nat.digitChar digit) = some ([], .code (value * 16 + digit)) := by
  have apart : ∀ digit < 16, Nat.digitChar digit ≠ '\x7d' := by decide
  simp [Place.step, apart digit bound, hexDigitValue?_digitChar digit bound]

theorem read?_hexDigits (code : Nat) (rest : List Char) :
    read? (.code 0) (hexDigits code ++ rest) = read? (.code code) rest := by
  -- The last digit is read after those of the sixteenth part.
  induction code using Nat.strongRecOn generalizing rest with
  | ind code ih =>
      unfold hexDigits at ih ⊢
      by_cases single : code < 16
      · rw [Nat.toDigits_of_lt_base single, List.singleton_append, read?_cons (step_digit single)]
        simp
      · have split : Nat.toDigits 16 code =
            Nat.toDigits 16 (code / 16) ++ Nat.toDigits 16 (code % 16) := by
          rw [Nat.toDigits_append_toDigits (by decide) (by omega) (by omega), Nat.div_add_mod]
        have last : code % 16 < 16 := by omega
        have value : code / 16 * 16 + code % 16 = code := by omega
        rw [split, Nat.toDigits_of_lt_base last, List.append_assoc, ih (code / 16) (by omega),
          List.singleton_append, read?_cons (step_digit last), value]
        simp

theorem read?_codePointEscape (c : Char) (rest : List Char) :
    read? .plain (codePointEscape c ++ rest) = (read? .plain rest).map (c :: ·) := by
  have valid : c.toNat.isValidChar := c.valid
  have opened : Place.plain.step '\\' = some ([], .escape) := rfl
  have named : Place.escape.step 'u' = some ([], .opening) := rfl
  have braced : Place.opening.step '\x7b' = some ([], .code 0) := rfl
  have closed : (Place.code c.toNat).step '\x7d' = some ([c], .plain) := by
    simp [Place.step, valid, Char.ofNat_toNat]
  simp only [codePointEscape, List.cons_append, List.nil_append, List.append_assoc]
  rw [read?_cons opened, read?_cons named, read?_cons braced, read?_hexDigits, read?_cons closed]
  simp [Function.comp_def]

/-- A character is read back from its written form, which leaves the reader where it was. -/
theorem read?_encodeChar (c : Char) (rest : List Char) :
    read? .plain (encodeChar c ++ rest) = (read? .plain rest).map (c :: ·) := by
  unfold encodeChar
  split
  case h_7 =>
    rename_i notNul notTab notFeed notReturn notQuote notBackslash
    split
    · exact read?_codePointEscape c rest
    · have bare : ¬ c = '\\' := notBackslash
      have apart : c ∉ delimiters := by
        simpa [delimiters] using ⟨notNul, notTab, notFeed, notReturn, notQuote⟩
      have taken : Place.plain.step c = some ([c], .plain) := by simp [Place.step, bare, apart]
      exact read?_cons taken rest
  all_goals exact read?_named rfl (by decide) rest

theorem decode_flatMap_encodeChar (text : List Char) :
    decode (text.flatMap encodeChar) = some text := by
  unfold decode
  induction text with
  | nil => rfl
  | cons c text ih => rw [List.flatMap_cons, read?_encodeChar, ih, Option.map_some]

/-! ### What can be read is inert -/

/-- The controls among the delimiters are refused wherever the reader stands. -/
theorem step_control (control : c ∈ ['\x00', '\t', '\n', '\r']) : place.step c = none := by
  simp only [List.mem_cons, List.not_mem_nil, or_false] at control
  rcases control with rfl | rfl | rfl | rfl <;> cases place <;>
    simp [Place.step, delimiters, namedEscape?, hexDigitValue?]

/-- Only after a backslash is a quote no end. -/
theorem step_quote (outside : place ≠ .escape) : place.step '"' = none := by
  cases place with
  | escape => exact absurd rfl outside
  | plain | opening | code value => simp [Place.step, delimiters, hexDigitValue?]

/-- Only a backslash between two characters opens an escape. -/
theorem eq_of_step_escape (taken : place.step c = some (chars, .escape)) :
    place = .plain ∧ c = '\\' := by
  cases place with
  | plain =>
      by_cases bare : c = '\\'
      · exact ⟨rfl, bare⟩
      · simp [Place.step, bare] at taken
  | escape =>
      simp only [Place.step] at taken
      split at taken <;> simp at taken
  | opening => simp [Place.step] at taken
  | code value =>
      simp only [Place.step] at taken
      split at taken
      · split at taken <;> cases taken
      · simp at taken

theorem step_backslash (outside : place ≠ .escape) (taken : place.step '\\' = some (chars, next)) :
    next = .escape := by
  cases place with
  | escape => exact absurd rfl outside
  | plain =>
      cases taken
      rfl
  | opening | code value => simp [Place.step, hexDigitValue?] at taken

theorem not_mem_of_read? {text : List Char} (read : read? place body = some text)
    (control : c ∈ ['\x00', '\t', '\n', '\r']) : c ∉ body := by
  induction body generalizing place text with
  | nil => exact List.not_mem_nil
  | cons d rest ih =>
      obtain ⟨chars, next, later, taken, read⟩ := exists_step read
      have other : c ≠ d := by
        rintro rfl
        rw [step_control control] at taken
        cases taken
      exact List.not_mem_cons_of_ne_of_not_mem other (ih read)

theorem read?_ne_of_showsQuote {text : List Char} (shown : ShowsQuote body)
    (outside : place ≠ .escape) : read? place body ≠ some text := by
  intro read
  induction shown generalizing place text with
  | here rest =>
      obtain ⟨chars, next, later, taken, -⟩ := exists_step read
      rw [step_quote outside] at taken
      cases taken
  | later bare shown ih =>
      obtain ⟨chars, next, later, taken, read⟩ := exists_step read
      refine ih ?_ read
      rintro rfl
      exact bare (eq_of_step_escape taken).2
  | escaped c shown ih =>
      obtain ⟨chars, next, later, taken, read⟩ := exists_step read
      obtain rfl := step_backslash outside taken
      obtain ⟨chars, next, later, taken, read⟩ := exists_step read
      refine ih ?_ read
      rintro rfl
      cases (eq_of_step_escape taken).1

/-- What stands between two quotes can be read, so no line break stands there, no control that has a name,
and no quote but after a backslash. -/
structure Inert (body : List Char) : Prop where
  noControl : ∀ c ∈ body, c ≠ '\n' ∧ c ≠ '\r' ∧ c ≠ '\t' ∧ c ≠ '\x00'
  noQuote : ¬ ShowsQuote body

theorem inert_of_decode {text : List Char} (read : decode body = some text) : Inert body where
  noControl c member := by
    have apart : c ∉ ['\x00', '\t', '\n', '\r'] := fun control => not_mem_of_read? read control member
    simp only [List.mem_cons, List.not_mem_nil, or_false, not_or] at apart
    obtain ⟨notNul, notTab, notFeed, notReturn⟩ := apart
    exact ⟨notFeed, notReturn, notTab, notNul⟩
  noQuote shown := by
    have outside : Place.plain ≠ .escape := by decide
    exact read?_ne_of_showsQuote shown outside read

end Reader

end VersionGate.Text.Quoted

namespace VersionGate.Text

theorem toList_quote (text : String) :
    (quote text).toList = '"' :: (text.toList.flatMap Quoted.encodeChar ++ ['"']) := by
  simp [quote, Quoted.encode]

theorem quote_inj {text other : String} : quote text = quote other ↔ text = other := by
  refine ⟨fun same => ?_, fun same => by rw [same]⟩
  have chars := congrArg String.toList same
  rw [toList_quote, toList_quote, List.cons_inj_right, List.append_cancel_right_eq] at chars
  have readBack := congrArg Quoted.decode chars
  rw [Quoted.decode_flatMap_encodeChar, Quoted.decode_flatMap_encodeChar] at readBack
  exact String.toList_inj.mp (Option.some_inj.mp readBack)

theorem quote_noFeed (text : String) : '\n' ∉ (quote text).toList := by
  have inert := Quoted.inert_of_decode (Quoted.decode_flatMap_encodeChar text.toList)
  rw [toList_quote]
  intro member
  rcases List.mem_cons.mp member with same | member
  · cases same
  rcases List.mem_append.mp member with within | closing
  · exact (inert.noControl _ within).1 rfl
  · cases List.mem_singleton.mp closing

end VersionGate.Text
