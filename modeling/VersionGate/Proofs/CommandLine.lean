import VersionGate.CommandLine
import VersionGate.Proofs.Text.Blank

namespace VersionGate

open Text

namespace CommandLine

variable {command : CommandLine} {text : String}

structure OfWords (command : CommandLine) : Prop where
  program : IsWord command.program.toList
  args : ∀ arg ∈ command.args, IsWord arg.toList

theorem ofWords_iff :
    command.OfWords ↔ ∀ part ∈ command.words.map String.toList, IsWord part := by
  simp only [words, List.map_cons, List.forall_mem_cons, List.forall_mem_map]
  exact ⟨fun ofWords => ⟨ofWords.program, ofWords.args⟩, fun parts => ⟨parts.1, parts.2⟩⟩

theorem words_injective {other : CommandLine} (same : command.words = other.words) :
    command = other := by
  obtain ⟨program, args⟩ := command
  obtain ⟨otherProgram, otherArgs⟩ := other
  simpa [words] using same

theorem parse?_eq_some_iff :
    parse? text = some command ↔ Text.words text.toList = command.words.map String.toList := by
  have strings : Text.words text.toList = command.words.map String.toList ↔
      (Text.words text.toList).map String.ofList = command.words := by
    constructor
    · intro same
      simp [same, Function.comp_def]
    · intro same
      simp [← same, Function.comp_def]
  rw [strings]
  unfold parse?
  cases (Text.words text.toList).map String.ofList with
  | nil => simp [words]
  | cons program args =>
      rw [Option.some_inj]
      exact ⟨fun same => same ▸ rfl, fun same => @words_injective ⟨program, args⟩ command same⟩

theorem parse?_eq_none_iff : parse? text = none ↔ ∀ c ∈ text.toList, isBlank c = true := by
  rw [← words_eq_nil_iff]
  unfold parse?
  cases Text.words text.toList <;> simp

theorem ofWords_of_parse? (spelt : parse? text = some command) : command.OfWords := by
  rw [ofWords_iff, ← parse?_eq_some_iff.mp spelt]
  exact fun part member => isWord_of_mem_words member

theorem toList_display (command : CommandLine) :
    command.display.toList = [' '].intercalate (command.words.map String.toList) := by
  rw [display, String.toList_intercalate]
  rfl

theorem parse?_display (ofWords : command.OfWords) : parse? command.display = some command := by
  rw [parse?_eq_some_iff, toList_display, words_intercalate (ofWords_iff.mp ofWords)]

/-- Writing what was read and reading it again changes nothing. -/
theorem parse?_bind_display (text : String) :
    ((parse? text).bind fun command => parse? command.display) = parse? text := by
  cases spelt : parse? text with
  | none => rfl
  | some command => exact parse?_display (ofWords_of_parse? spelt)

/-- The normal form of a text: the command line that it spells out, written with single spaces. -/
def normalized? (text : String) : Option String :=
  (parse? text).map display

theorem normalized?_bind_normalized? (text : String) :
    (normalized? text).bind normalized? = normalized? text := by
  have again := congrArg (Option.map display) (parse?_bind_display text)
  unfold normalized?
  cases spelt : parse? text with
  | none => rfl
  | some command =>
      rw [spelt] at again
      exact again

end CommandLine

open CommandLine in
/-- Reading undoes writing exactly for the command lines made of words, which are those that are ever
read. Writing what was read therefore changes nothing more when it is done again, and only a blank text
spells out no command line. -/
theorem command_line_round_trip :
    (∀ command : CommandLine, parse? command.display = some command ↔ command.OfWords) ∧
    (∀ text command, parse? text = some command → command.OfWords) ∧
    (∀ text, ((parse? text).bind fun command => parse? command.display) = parse? text) ∧
    (∀ text, (normalized? text).bind normalized? = normalized? text) ∧
    ∀ text, parse? text = none ↔ ∀ c ∈ text.toList, isBlank c = true :=
  ⟨fun _ => ⟨ofWords_of_parse?, parse?_display⟩, fun _ _ => ofWords_of_parse?,
    parse?_bind_display, normalized?_bind_normalized?, fun _ => parse?_eq_none_iff⟩

open CommandLine in
/-- A query between a wide space and a line feed is read as two words, which are read back from their
normal form. A command line with an empty argument is not read back. -/
theorem command_line_round_trip_spacing :
    let text := "\u3000go \tversion\n"
    let command : CommandLine := ⟨"go", ["version"]⟩
    let padded : CommandLine := ⟨"go", ["version", ""]⟩
    parse? text = some command ∧ command.OfWords ∧ parse? command.display = some command ∧
      normalized? text = some "go version" ∧ parse? padded.display ≠ some padded := by
  intro text command padded
  obtain ⟨readBack, ofWords, _, _, _⟩ := command_line_round_trip
  have spelt : parse? text = some command := by decide +kernel
  have made := ofWords text command spelt
  refine ⟨spelt, made, (readBack command).mpr made, by decide +kernel, fun same => ?_⟩
  have empty := ((readBack padded).mp same).args "" (by simp [padded])
  exact empty.nonempty rfl

end VersionGate
