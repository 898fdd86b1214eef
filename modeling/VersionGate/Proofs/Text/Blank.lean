import Mathlib.Data.List.DropRight
import VersionGate.Text.Blank

namespace VersionGate.Text

/-- A nonempty text without blanks. -/
structure IsWord (text : List Char) : Prop where
  nonempty : text ≠ []
  solid : ∀ c ∈ text, isBlank c = false

/-- A text before which a word ends: it is empty or begins with a blank. -/
def EndsWord (text : List Char) : Prop :=
  ∀ c ∈ text.head?, isBlank c = true

-- Membership is decided along the text: over all characters would be the other choice.
instance (text : List Char) : Decidable (IsWord text) :=
  decidable_of_iff (text.isEmpty = false ∧ text.any isBlank = false)
    ⟨fun ⟨nonempty, solid⟩ => ⟨by simpa using nonempty, by simpa using solid⟩,
      fun ⟨nonempty, solid⟩ => ⟨by simpa using nonempty, by simpa using solid⟩⟩

instance (text : List Char) : Decidable (EndsWord text) :=
  decidable_of_iff (text.head?.all isBlank = true) (Option.all_eq_true _ _)

@[simp] theorem words_nil : words [] = [] := rfl

theorem splitWord_of_blank {c : Char} (text : List Char) (blank : isBlank c = true) :
    splitWord (c :: text) = ([], words text) := by
  simp only [splitWord, blank, if_true, words]

theorem splitWord_append_blank {c : Char} (before after : List Char) (blank : isBlank c = true) :
    splitWord (before ++ c :: after) =
      ((splitWord before).1, (splitWord before).2 ++ words after) := by
  induction before with
  | nil => exact splitWord_of_blank after blank
  | cons first rest ih =>
      simp only [List.cons_append, splitWord, ih]
      split
      · split <;> rfl
      · rfl

theorem words_append_blank {c : Char} (before after : List Char) (blank : isBlank c = true) :
    words (before ++ c :: after) = words before ++ words after := by
  simp only [words, splitWord_append_blank before after blank]
  split <;> rfl

theorem words_cons_blank {c : Char} (text : List Char) (blank : isBlank c = true) :
    words (c :: text) = words text :=
  words_append_blank [] text blank

theorem words_of_blanks {text : List Char} (blanks : ∀ c ∈ text, isBlank c = true) :
    words text = [] := by
  induction text with
  | nil => rfl
  | cons c rest ih =>
      rw [words_cons_blank rest (blanks c (by simp))]
      exact ih fun d member => blanks d (by simp [member])

theorem words_blanks_append {blanks text : List Char} (blank : ∀ c ∈ blanks, isBlank c = true) :
    words (blanks ++ text) = words text := by
  induction blanks with
  | nil => rfl
  | cons c rest ih =>
      rw [List.cons_append, words_cons_blank _ (blank c (by simp))]
      exact ih fun d member => blank d (by simp [member])

theorem words_append_blanks {text blanks : List Char} (blank : ∀ c ∈ blanks, isBlank c = true) :
    words (text ++ blanks) = words text := by
  cases blanks with
  | nil => rw [List.append_nil]
  | cons c rest =>
      have none := words_of_blanks fun d member => blank d (List.mem_cons_of_mem c member)
      rw [words_append_blank text rest (blank c (by simp)), none, List.append_nil]

theorem splitWord_of_solid {text : List Char} (solid : ∀ c ∈ text, isBlank c = false) :
    splitWord text = (text, []) := by
  induction text with
  | nil => rfl
  | cons c rest ih =>
      have tail := ih fun d member => solid d (by simp [member])
      simp only [splitWord, tail, solid c (by simp), Bool.false_eq_true, if_false]

theorem IsWord.words_eq {text : List Char} (word : IsWord text) : words text = [text] := by
  simp [words, splitWord_of_solid word.solid, word.nonempty]

/-- A text is read apart from what ends its last word. -/
theorem EndsWord.words_append {rest : List Char} (ends : EndsWord rest) (text : List Char) :
    words (text ++ rest) = words text ++ words rest := by
  cases rest with
  | nil => rw [words_nil, List.append_nil, List.append_nil]
  | cons c rest =>
      have blank : isBlank c = true := ends c rfl
      rw [words_append_blank text rest blank, words_cons_blank rest blank]

/-- A word is read whole when nothing carries it on. -/
theorem IsWord.words_append {word rest : List Char} (isWord : IsWord word) (ends : EndsWord rest) :
    words (word ++ rest) = word :: words rest := by
  rw [ends.words_append, isWord.words_eq]
  rfl

theorem words_intercalate {parts : List (List Char)} (areWords : ∀ word ∈ parts, IsWord word) :
    words ([' '].intercalate parts) = parts := by
  have space : isBlank ' ' = true := by decide
  induction parts with
  | nil => rfl
  | cons word rest ih =>
      have isWord := areWords word (by simp)
      have later := ih fun other member => areWords other (by simp [member])
      cases rest with
      | nil => rw [List.intercalate_singleton, isWord.words_eq]
      | cons next rest =>
          rw [List.intercalate_cons_cons, List.append_assoc, List.singleton_append,
            words_append_blank _ _ space, isWord.words_eq, later]
          rfl

theorem words_eq_nil_iff {text : List Char} : words text = [] ↔ ∀ c ∈ text, isBlank c = true := by
  refine ⟨fun empty => ?_, words_of_blanks⟩
  induction text with
  | nil => simp
  | cons c rest ih =>
      cases blank : isBlank c with
      | false => simp [words, splitWord, blank] at empty
      | true =>
          rw [words_cons_blank rest blank] at empty
          simpa [blank] using ih empty

/-- The word that a text begins with has no blanks in it, and what comes after it are words. -/
theorem splitWord_isWord (text : List Char) :
    (∀ c ∈ (splitWord text).1, isBlank c = false) ∧ ∀ word ∈ (splitWord text).2, IsWord word := by
  induction text with
  | nil => simp [splitWord]
  | cons c rest ih =>
      obtain ⟨solid, later⟩ := ih
      cases blank : isBlank c with
      | false =>
          refine ⟨?_, by simpa [splitWord, blank] using later⟩
          simpa [splitWord, blank] using solid
      | true =>
          simp only [splitWord, blank, if_true]
          refine ⟨by simp, ?_⟩
          by_cases none : (splitWord rest).1 = []
          · simpa [none] using later
          · simpa [none] using ⟨⟨none, solid⟩, later⟩

theorem isWord_of_mem_words {text word : List Char} (member : word ∈ words text) :
    IsWord word := by
  obtain ⟨solid, later⟩ := splitWord_isWord text
  by_cases none : (splitWord text).1 = []
  · exact later word (by simpa [words, none] using member)
  · simp only [words, List.isEmpty_iff, none, if_false, List.mem_cons] at member
    rcases member with rfl | member
    · exact ⟨none, solid⟩
    · exact later word member

/-- `core` is `text` without the blanks around it. -/
structure Trimmed (text core : List Char) : Prop where
  around : ∃ before after, text = before ++ core ++ after ∧
    (∀ c ∈ before, isBlank c = true) ∧ ∀ c ∈ after, isBlank c = true
  first : ∀ c ∈ core.head?, isBlank c = false
  last : ∀ c ∈ core.getLast?, isBlank c = false

theorem trim_trimmed (text : List Char) : Trimmed text (trim text) := by
  let rest := text.dropWhile isBlank
  have front : text = text.takeWhile isBlank ++ rest := List.takeWhile_append_dropWhile.symm
  have back : rest = trim text ++ rest.rtakeWhile isBlank :=
    List.rdropWhile_append_rtakeWhile.symm
  refine ⟨⟨text.takeWhile isBlank, rest.rtakeWhile isBlank, ?_, ?_, ?_⟩, ?_, ?_⟩
  · rw [List.append_assoc, ← back, ← front]
  · exact fun c member => List.mem_takeWhile_imp member
  · exact fun c member => List.mem_rtakeWhile_imp member
  · intro c first
    have opening : c ∈ rest.head? := by
      rw [back]
      exact List.mem_head?_append_of_mem_head? first
    have stops := List.head?_dropWhile_not isBlank text
    rw [Option.mem_def.mp opening] at stops
    simpa using stops
  · intro c last
    have nonempty : trim text ≠ [] := by
      intro empty
      simp [empty] at last
    have stops := List.rdropWhile_last_not isBlank rest nonempty
    have same : (trim text).getLast nonempty = c := by
      rw [List.getLast?_eq_some_getLast nonempty] at last
      exact Option.mem_some.mp last
    rw [← same]
    exact (Bool.not_eq_true _).mp stops

/-- There is only one way to trim a text. -/
theorem Trimmed.trim_eq {text core : List Char} (trimmed : Trimmed text core) : trim text = core := by
  obtain ⟨⟨before, after, rfl, blankBefore, blankAfter⟩, first, last⟩ := trimmed
  cases core with
  | nil =>
      have blank : ∀ c ∈ before ++ [] ++ after, isBlank c = true := by
        simpa [or_imp, forall_and] using ⟨blankBefore, blankAfter⟩
      rw [trim, List.dropWhile_eq_nil_iff.mpr blank]
      rfl
  | cons c rest =>
      have front : (before ++ c :: rest ++ after).dropWhile isBlank = c :: rest ++ after := by
        have solid : isBlank c = false := first c rfl
        rw [List.append_assoc, List.dropWhile_append_of_pos blankBefore, List.cons_append,
          List.dropWhile_cons_of_neg (by simp [solid])]
      have back : (c :: rest).rdropWhile isBlank = c :: rest := by
        refine List.rdropWhile_eq_self_iff.mpr fun nonempty => ?_
        simp [last _ (List.getLast_mem_getLast? nonempty)]
      rw [trim, front]
      change (c :: rest ++ after).rdropWhile isBlank = c :: rest
      rw [List.rdropWhile, List.reverse_append, List.dropWhile_append_of_pos (by simpa using blankAfter)]
      exact back

end VersionGate.Text
