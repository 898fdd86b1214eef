import VersionGate.Proofs.Text.Blank
import VersionGate.Proofs.Text.Prefix

namespace VersionGate.Text

variable {text word rest : List Char}

theorem IsWord.head?_append (isWord : IsWord word) (rest : List Char) :
    ∃ c, (word ++ rest).head? = some c ∧ isBlank c = false := by
  obtain ⟨c, later, split⟩ := List.exists_cons_of_ne_nil isWord.nonempty
  exact ⟨c, by simp [split], isWord.solid c (by simp [split])⟩

theorem EndsWord.gap_ne_nil {gap : List Char} (ends : EndsWord (gap ++ (word ++ rest)))
    (isWord : IsWord word) : gap ≠ [] := by
  rintro rfl
  obtain ⟨c, first, solid⟩ := isWord.head?_append rest
  have blank := ends c first
  rw [solid] at blank
  cases blank

theorem EndsWord.append {after : List Char} (ends : EndsWord rest) (endsAfter : EndsWord after) :
    EndsWord (rest ++ after) := by
  cases rest with
  | nil => exact endsAfter
  | cons c rest => exact ends

/-- A text that has a word after some blanks, and what follows the word. -/
structure FirstWord (text blanks word rest : List Char) : Prop where
  split : text = blanks ++ (word ++ rest)
  blank : ∀ c ∈ blanks, isBlank c = true
  isWord : IsWord word
  ends : EndsWord rest

theorem FirstWord.unique {blanks otherBlanks other otherRest : List Char}
    (first : FirstWord text blanks word rest)
    (again : FirstWord text otherBlanks other otherRest) :
    blanks = otherBlanks ∧ word = other ∧ rest = otherRest := by
  have begins {word : List Char} (isWord : IsWord word) (rest : List Char) :
      ∀ c ∈ (word ++ rest).head?, isBlank c = false := by
    intro c opening
    obtain ⟨d, found, solid⟩ := isWord.head?_append rest
    rw [found] at opening
    cases opening
    exact solid
  obtain ⟨sameBlanks, same⟩ := append_inj_of_stops first.blank (begins first.isWord rest)
    again.blank (begins again.isWord otherRest) (first.split.symm.trans again.split)
  let solid c := !isBlank c
  obtain ⟨sameWord, sameRest⟩ := @append_inj_of_stops solid word rest other otherRest
    (by simpa [solid] using first.isWord.solid) (fun c next => by simp [solid, first.ends c next])
    (by simpa [solid] using again.isWord.solid) (fun c next => by simp [solid, again.ends c next])
    same
  exact ⟨sameBlanks, sameWord, sameRest⟩

theorem exists_firstWord (some : ¬ ∀ c ∈ text, isBlank c = true) :
    ∃ blanks word rest, FirstWord text blanks word rest := by
  let start := text.dropWhile isBlank
  let solid c := !isBlank c
  have front : text = text.takeWhile isBlank ++ start := List.takeWhile_append_dropWhile.symm
  have back : start = start.takeWhile solid ++ start.dropWhile solid :=
    List.takeWhile_append_dropWhile.symm
  refine ⟨text.takeWhile isBlank, start.takeWhile solid, start.dropWhile solid, back ▸ front, ?_,
    ⟨?_, ?_⟩, ?_⟩
  · exact fun c member => List.mem_takeWhile_imp member
  · have stops := List.head?_dropWhile_not isBlank text
    cases begins : text.dropWhile isBlank with
    | nil => exact absurd (List.dropWhile_eq_nil_iff.mp begins) some
    | cons c rest =>
        rw [begins] at stops
        have other : isBlank c = false := by simpa using stops
        simp [start, begins, solid, other]
  · intro c member
    simpa [solid] using List.mem_takeWhile_imp member
  · intro c opening
    have stops := List.head?_dropWhile_not solid start
    rw [Option.mem_def.mp opening] at stops
    simpa [solid] using stops

theorem FirstWord.words_eq {blanks : List Char} (first : FirstWord text blanks word rest) :
    words text = word :: words rest := by
  rw [first.split, words_blanks_append first.blank, first.isWord.words_append first.ends]

/-- The first of the words of a text is its first word, and the others are those of what follows. -/
theorem words_eq_cons_iff {later : List (List Char)} : words text = word :: later ↔
    ∃ blanks rest, FirstWord text blanks word rest ∧ words rest = later := by
  constructor
  · intro read
    have some : ¬ ∀ c ∈ text, isBlank c = true := by
      intro blank
      rw [words_of_blanks blank] at read
      cases read
    obtain ⟨blanks, other, rest, first⟩ := exists_firstWord some
    rw [first.words_eq] at read
    cases read
    exact ⟨blanks, rest, first, rfl⟩
  · rintro ⟨blanks, rest, first, rfl⟩
    exact first.words_eq

end VersionGate.Text
