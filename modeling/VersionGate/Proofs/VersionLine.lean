import VersionGate.Proofs.Text.Blank
import VersionGate.VersionLine

namespace VersionGate

open Text

structure IsSpacing (text : List Char) : Prop where
  blank : ∀ c ∈ text, isBlank c = true
  noFeed : '\n' ∉ text

instance (text : List Char) : Decidable (IsSpacing text) :=
  decidable_of_iff (text.all isBlank = true ∧ text.elem '\n' = false)
    ⟨fun ⟨blank, noFeed⟩ => ⟨by simpa using blank, by simpa using noFeed⟩,
      fun ⟨blank, noFeed⟩ => ⟨by simpa using blank, by simpa using noFeed⟩⟩

/-- The outputs whose first line has a given third word. -/
inductive ThirdWord : List Char → List Char → Prop where
  | intro {indent first gap second space word rest : List Char}
      (indented : IsSpacing indent) (isFirst : IsWord first)
      (apart : gap ≠ []) (isGap : IsSpacing gap) (isSecond : IsWord second)
      (away : space ≠ []) (isSpace : IsSpacing space) (isWord : IsWord word)
      (ends : EndsWord rest) :
      ThirdWord (indent ++ (first ++ (gap ++ (second ++ (space ++ (word ++ rest)))))) word

theorem isBlank_lineFeed : isBlank '\n' = true := by decide

theorem isBlank_return : isBlank '\r' = true := by decide

theorem words_dropReturn (line : List Char) : words (dropReturn line) = words line := by
  unfold dropReturn
  split
  · rename_i last
    have split : line = line.dropLast ++ ['\r'] := (List.dropLast_append_getLast? _ last).symm
    conv_rhs => rw [split]
    exact (words_append_blanks (by simp [isBlank_return])).symm
  · rfl

theorem words_firstLine {text line : List Char} (found : firstLine? text = some line) :
    words line = words (text.takeWhile (· ≠ '\n')) := by
  unfold firstLine? at found
  split at found
  · cases found
  · cases found
    split
    · exact words_dropReturn _
    · rfl

theorem firstLine?_of_ne_nil {text : List Char} (nonempty : text ≠ []) :
    ∃ line, firstLine? text = some line := by
  simp [firstLine?, nonempty]

theorem withinLine {text : List Char} (single : '\n' ∉ text) (rest : List Char) :
    (text ++ rest).takeWhile (· ≠ '\n') = text ++ rest.takeWhile (· ≠ '\n') := by
  refine List.takeWhile_append_of_pos fun c member => ?_
  have other : c ≠ '\n' := by
    rintro rfl
    exact single member
  simpa using other

theorem IsSpacing.withinLine {text : List Char} (spacing : IsSpacing text) (rest : List Char) :
    (text ++ rest).takeWhile (· ≠ '\n') = text ++ rest.takeWhile (· ≠ '\n') :=
  VersionGate.withinLine spacing.noFeed rest

theorem Text.IsWord.noFeed {text : List Char} (word : IsWord text) : '\n' ∉ text := by
  intro member
  have solid := word.solid _ member
  rw [isBlank_lineFeed] at solid
  cases solid

theorem Text.IsWord.withinLine {text : List Char} (word : IsWord text) (rest : List Char) :
    (text ++ rest).takeWhile (· ≠ '\n') = text ++ rest.takeWhile (· ≠ '\n') :=
  VersionGate.withinLine word.noFeed rest

theorem Text.EndsWord.withinLine {rest : List Char} (ends : EndsWord rest) :
    EndsWord (rest.takeWhile (· ≠ '\n')) := by
  intro c first
  rw [List.head?_takeWhile] at first
  exact ends c (Option.mem_filter_iff.mp first).1

theorem Text.EndsWord.of_blanks {spacing rest : List Char} (nonempty : spacing ≠ [])
    (blank : ∀ c ∈ spacing, isBlank c = true) : EndsWord (spacing ++ rest) := by
  obtain ⟨c, later, split⟩ := List.exists_cons_of_ne_nil nonempty
  intro d first
  rw [split] at first
  cases first
  exact blank c (by simp [split])

theorem ThirdWord.words_eq {output word : List Char} (third : ThirdWord output word) :
    ∃ first second later,
      words (output.takeWhile (· ≠ '\n')) = first :: second :: word :: later := by
  cases third with
  | @intro indent first gap second space word rest
      indented isFirst apart isGap isSecond away isSpace isWord ends =>
      refine ⟨first, second, words (rest.takeWhile (· ≠ '\n')), ?_⟩
      rw [indented.withinLine, isFirst.withinLine, isGap.withinLine, isSecond.withinLine,
        isSpace.withinLine, isWord.withinLine, words_blanks_append indented.blank,
        isFirst.words_append (.of_blanks apart isGap.blank), words_blanks_append isGap.blank,
        isSecond.words_append (.of_blanks away isSpace.blank), words_blanks_append isSpace.blank,
        isWord.words_append ends.withinLine]

theorem reportedVersion_of_words {output : String} {first second word : List Char}
    {later : List (List Char)}
    (read : words (output.toList.takeWhile (· ≠ '\n')) = first :: second :: word :: later) :
    reportedVersion output = .ok (String.ofList word) := by
  have nonempty : output.toList ≠ [] := by
    intro empty
    simp [empty] at read
  obtain ⟨line, found⟩ := firstLine?_of_ne_nil nonempty
  rw [← words_firstLine found] at read
  simp [reportedVersion, found, read]

/-- An output reports the third word of its first line, however its words are set apart and whatever
follows them. -/
theorem ThirdWord.reportedVersion_eq {output version : String}
    (third : ThirdWord output.toList version.toList) :
    reportedVersion output = .ok version := by
  obtain ⟨first, second, later, read⟩ := third.words_eq
  rw [reportedVersion_of_words read, String.ofList_toList]

theorem isWord_of_reportedVersion {output version : String}
    (reported : reportedVersion output = .ok version) : IsWord version.toList := by
  unfold reportedVersion at reported
  split at reported
  · cases reported
  · split at reported
    · rename_i word third
      cases reported
      rw [String.toList_ofList]
      exact isWord_of_mem_words (List.mem_of_getElem? third)
    · cases reported

end VersionGate
