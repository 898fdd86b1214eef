import Mathlib.Data.List.Basic
import VersionGate.Proofs.Text.Prefix
import VersionGate.Text.Line

namespace VersionGate.Text

variable {text line : List Char}

/-- `line` is the first line of `text`, without what ends it. -/
inductive FirstLine : List Char → List Char → Prop where
  | feed {line rest : List Char} (single : '\n' ∉ line) (bare : line.getLast? ≠ some '\r') :
      FirstLine (line ++ '\n' :: rest) line
  | returnFeed {line rest : List Char} (single : '\n' ∉ line) :
      FirstLine (line ++ '\r' :: '\n' :: rest) line
  | whole {line : List Char} (single : '\n' ∉ line) (nonempty : line ≠ []) : FirstLine line line

theorem takeWhile_line {after : List Char} (single : '\n' ∉ line) (feed : ∀ c ∈ after.head?, c = '\n') :
    (line ++ after).takeWhile (· ≠ '\n') = line := by
  refine takeWhile_append_of_stops (fun c member => ?_) fun c opening => by simp [feed c opening]
  have other : c ≠ '\n' := fun same => single (same ▸ member)
  simpa using other

theorem takeWhile_of_single (single : '\n' ∉ line) : line.takeWhile (· ≠ '\n') = line := by
  have whole := @takeWhile_line line [] single (by simp)
  rwa [List.append_nil] at whole

theorem takeWhile_feed (single : '\n' ∉ line) (rest : List Char) :
    (line ++ '\n' :: rest).takeWhile (· ≠ '\n') = line :=
  takeWhile_line single (by simp)

theorem single_or_feed (text : List Char) :
    '\n' ∉ text ∨ ∃ line rest, text = line ++ '\n' :: rest ∧ '\n' ∉ line := by
  by_cases feed : '\n' ∈ text
  · exact .inr (List.eq_append_cons_of_mem feed)
  · exact .inl feed

/-- A text is what stands before its first line feed and what follows from there. -/
theorem exists_line (text : List Char) : ∃ line after, text = line ++ after ∧ '\n' ∉ line ∧
    ∀ c ∈ after.head?, c = '\n' := by
  rcases single_or_feed text with single | ⟨line, rest, split, single⟩
  · exact ⟨text, [], by simp, single, by simp⟩
  · exact ⟨line, '\n' :: rest, split, single, by simp⟩

@[simp] theorem dropReturn_append (line : List Char) : dropReturn (line ++ ['\r']) = line := by
  simp [dropReturn]

theorem dropReturn_of_bare (bare : line.getLast? ≠ some '\r') : dropReturn line = line := by
  simp [dropReturn, bare]

theorem firstLine?_feed (single : '\n' ∉ line) (rest : List Char) :
    firstLine? (line ++ '\n' :: rest) = some (dropReturn line) := by
  simp only [firstLine?, takeWhile_feed single]
  simp

theorem firstLine?_of_single (single : '\n' ∉ text) (nonempty : text ≠ []) :
    firstLine? text = some text := by
  simp only [firstLine?, takeWhile_of_single single]
  simp [single, nonempty]

theorem firstLine?_eq_none_iff : firstLine? text = none ↔ text = [] := by
  simp [firstLine?]

theorem FirstLine.firstLine?_eq (first : FirstLine text line) : firstLine? text = some line := by
  cases first with
  | feed single bare => rw [firstLine?_feed single, dropReturn_of_bare bare]
  | @returnFeed line rest single =>
      have within : '\n' ∉ line ++ ['\r'] := by simp [single]
      have split : line ++ '\r' :: '\n' :: rest = (line ++ ['\r']) ++ '\n' :: rest := by simp
      rw [split, firstLine?_feed within, dropReturn_append]
  | whole single nonempty => exact firstLine?_of_single single nonempty

theorem firstLine_of_feed (single : '\n' ∉ line) (rest : List Char) :
    FirstLine (line ++ '\n' :: rest) (dropReturn line) := by
  by_cases last : line.getLast? = some '\r'
  · have split : line = line.dropLast ++ ['\r'] := (List.dropLast_append_getLast? _ last).symm
    rw [split] at single ⊢
    rw [dropReturn_append, List.append_assoc]
    exact .returnFeed fun member => single (by simp [member])
  · rw [dropReturn_of_bare last]
    exact .feed single last

theorem firstLine?_eq_some_iff : firstLine? text = some line ↔ FirstLine text line := by
  refine ⟨fun found => ?_, FirstLine.firstLine?_eq⟩
  rcases single_or_feed text with single | ⟨front, rest, rfl, single⟩
  · have nonempty : text ≠ [] := by
      rintro rfl
      cases found
    rw [firstLine?_of_single single nonempty] at found
    cases found
    exact .whole single nonempty
  · rw [firstLine?_feed single] at found
    cases found
    exact firstLine_of_feed single rest

/-- What follows a line feed has no part in the first line. -/
theorem firstLine?_append_feed (before rest other : List Char) :
    firstLine? (before ++ '\n' :: rest) = firstLine? (before ++ '\n' :: other) := by
  rcases single_or_feed before with single | ⟨front, later, rfl, single⟩
  · rw [firstLine?_feed single, firstLine?_feed single]
  · rw [List.append_assoc, List.append_assoc, List.cons_append, List.cons_append,
      firstLine?_feed single, firstLine?_feed single]

end VersionGate.Text
