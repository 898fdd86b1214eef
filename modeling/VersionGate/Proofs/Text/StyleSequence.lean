import Mathlib.Data.List.Basic

/-!
Deleting style sequences.

A style sequence is an escape character, a bracket, any number of parameter characters and the letter m.
What is deleted from the front of a text does not depend on what comes after it, so that a text can be
taken apart where styles are switched on and off, and put together again from the parts.
-/

namespace VersionGate.Text

def escapeChar : Char := '\x1b'

/-- Whether a character can stand between the bracket of a sequence and the letter that ends it. -/
def isParameter (c : Char) : Bool :=
  '0' ≤ c && c ≤ '?'

/-- What follows the style sequence that a text begins with. -/
def afterStyle? : List Char → Option (List Char)
  | first :: second :: rest =>
    if first = escapeChar ∧ second = '[' then
      match rest.dropWhile isParameter with
      | last :: later => if last = 'm' then some later else none
      | [] => none
    else none
  | _ => none

theorem length_lt_of_afterStyle? {text later : List Char} (found : afterStyle? text = some later) :
    later.length < text.length := by
  unfold afterStyle? at found
  split at found
  · rename_i first second rest
    split at found
    · have shorter := (List.dropWhile_suffix isParameter (l := rest)).length_le
      split at found
      · rename_i last after split
        rw [split, List.length_cons] at shorter
        split at found
        · cases found
          simp only [List.length_cons]
          omega
        · cases found
      · cases found
    · cases found
  · cases found

/-- A text without its style sequences. -/
def withoutStyles (text : List Char) : List Char :=
  match text with
  | [] => []
  | c :: rest =>
    match _ : afterStyle? (c :: rest) with
    | some later => withoutStyles later
    | none => c :: withoutStyles rest
termination_by text.length
decreasing_by
  · exact length_lt_of_afterStyle? ‹_›
  · exact Nat.lt_succ_self _

/-- A string without its style sequences. -/
def removeStyles (text : String) : String :=
  String.ofList (withoutStyles text.toList)

theorem withoutStyles_nil : withoutStyles [] = [] := by
  rw [withoutStyles]

theorem withoutStyles_of_style {text later : List Char} (found : afterStyle? text = some later) :
    withoutStyles text = withoutStyles later := by
  cases text with
  | nil => cases found
  | cons c rest =>
      rw [withoutStyles]
      split
      · rename_i other same
        rw [found] at same
        cases same
        rfl
      · rename_i none
        rw [found] at none
        cases none

theorem withoutStyles_cons {c : Char} (plain : c ≠ escapeChar) (rest : List Char) :
    withoutStyles (c :: rest) = c :: withoutStyles rest := by
  have none : afterStyle? (c :: rest) = none := by
    cases rest <;> simp [afterStyle?, plain]
  rw [withoutStyles]
  split
  · rename_i later found
    rw [none] at found
    cases found
  · rfl

theorem afterStyle?_append {code : List Char} (parameters : ∀ c ∈ code, isParameter c = true)
    (rest : List Char) : afterStyle? (escapeChar :: '[' :: (code ++ 'm' :: rest)) = some rest := by
  -- The letter is no parameter itself, so that the parameters end where the code does.
  have ended : (code ++ 'm' :: rest).dropWhile isParameter = 'm' :: rest := by
    rw [List.dropWhile_append_of_pos parameters]
    rfl
  simp [afterStyle?, ended]

/-- A text that shows as another one, whatever follows it. -/
def ShowsAs (styled plain : List Char) : Prop :=
  ∀ rest, withoutStyles (styled ++ rest) = plain ++ withoutStyles rest

theorem ShowsAs.withoutStyles_eq {styled plain : List Char} (shows : ShowsAs styled plain) :
    withoutStyles styled = plain := by
  have whole := shows []
  rwa [List.append_nil, withoutStyles_nil, List.append_nil] at whole

theorem ShowsAs.append {styled plain laterStyled laterPlain : List Char}
    (front : ShowsAs styled plain) (later : ShowsAs laterStyled laterPlain) :
    ShowsAs (styled ++ laterStyled) (plain ++ laterPlain) := by
  intro rest
  rw [List.append_assoc, front, later, List.append_assoc]

theorem showsAs_self {text : List Char} (free : escapeChar ∉ text) : ShowsAs text text := by
  intro rest
  induction text with
  | nil => rfl
  | cons c later ih =>
      have plain : c ≠ escapeChar := fun same => free (same ▸ List.mem_cons_self)
      rw [List.cons_append, withoutStyles_cons plain,
        ih fun member => free (List.mem_cons_of_mem _ member), List.cons_append]

end VersionGate.Text
