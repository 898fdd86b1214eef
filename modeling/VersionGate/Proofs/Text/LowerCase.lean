import Mathlib.Data.List.Forall2
import VersionGate.Text.LowerCase

/-!
Lower case over all scripts next to that of ASCII.

On ASCII the two agree. Beyond it a lower case holds a character that is beyond ASCII as well, with one
exception: the sign of the kelvin becomes the letter k. A word in ASCII without that letter is therefore the
lower case of its own spellings in capital and small letters, and of nothing else.
-/

namespace VersionGate.Text

/-- The same character, or the two cases of one ASCII letter. -/
inductive SameLetter : Char → Char → Prop where
  | same (c : Char) : SameLetter c c
  | capital {capital small : Char} (first : 'A' ≤ capital) (last : capital ≤ 'Z')
      (apart : small.toNat = capital.toNat + 32) : SameLetter capital small
  | small {capital small : Char} (first : 'A' ≤ capital) (last : capital ≤ 'Z')
      (apart : small.toNat = capital.toNat + 32) : SameLetter small capital

/-- A lower case of a text: what `lowerCase` makes of it, or the same with some capital sigmas in the form
that the letter has at the end of a word. -/
inductive Lowers : List Char → List Char → Prop where
  | nil : Lowers [] []
  | char (c : Char) {rest lowered : List Char} (later : Lowers rest lowered) :
      Lowers (c :: rest) (lowerChar c ++ lowered)
  | finalSigma {rest lowered : List Char} (later : Lowers rest lowered) :
      Lowers ('\u03a3' :: rest) ('\u03c2' :: lowered)

/-- A text in ASCII without the letter k, the one that a character of another script can stand for. -/
def Distinctive (text : List Char) : Prop :=
  ∀ c ∈ text, c.toNat < 0x80 ∧ c ≠ 'k'

instance (text : List Char) : Decidable (Distinctive text) :=
  List.decidableBAll _ text

variable {c d : Char} {text lowered name : List Char}

theorem lowers_lowerCase (text : List Char) : Lowers text (lowerCase text) := by
  induction text with
  | nil => exact .nil
  | cons c rest ih => exact .char c ih

theorem toNat_ofNat_of_valid {code : Nat} (valid : code.isValidChar) :
    (Char.ofNat code).toNat = code := by
  have char : Char.ofNat code = Char.ofNatAux code valid := dif_pos valid
  rw [char]
  rfl

theorem le_iff_toNat_le : c ≤ d ↔ c.toNat ≤ d.toNat :=
  Iff.rfl

theorem toNat_lowerAsciiChar (c : Char) : (lowerAsciiChar c).toNat =
    if 'A'.toNat ≤ c.toNat ∧ c.toNat ≤ 'Z'.toNat then c.toNat + 32 else c.toNat := by
  unfold lowerAsciiChar
  simp only [le_iff_toNat_le]
  split
  · rename_i letter
    have last : c.toNat ≤ 90 := letter.2
    exact toNat_ofNat_of_valid (.inl (by omega))
  · rfl

theorem lowerAsciiChar_of_beyond (beyond : 0x80 ≤ c.toNat) : lowerAsciiChar c = c := by
  refine if_neg fun letter => ?_
  have last : c.toNat ≤ 90 := letter.2
  omega

theorem lowerAsciiChar_eq_iff : lowerAsciiChar c = lowerAsciiChar d ↔ SameLetter c d := by
  have first : 'A'.toNat = 65 := rfl
  have last : 'Z'.toNat = 90 := rfl
  rw [← Char.toNat_inj, toNat_lowerAsciiChar, toNat_lowerAsciiChar]
  constructor
  · intro same
    by_cases equal : c.toNat = d.toNat
    · rw [Char.toNat_inj.mp equal]
      exact .same d
    · split at same <;> split at same
      · omega
      · exact .capital (by rw [le_iff_toNat_le]; omega) (by rw [le_iff_toNat_le]; omega) same.symm
      · exact .small (by rw [le_iff_toNat_le]; omega) (by rw [le_iff_toNat_le]; omega) same
      · exact absurd same equal
  · intro same
    cases same with
    | same => rfl
    | capital first last apart =>
        rw [le_iff_toNat_le] at first last
        rw [if_pos ⟨first, last⟩, if_neg (by omega), apart]
    | small first last apart =>
        rw [le_iff_toNat_le] at first last
        rw [if_neg (by omega), if_pos ⟨first, last⟩, apart]

theorem lowerAscii_eq_iff :
    lowerAscii text = lowerAscii name ↔ List.Forall₂ SameLetter text name := by
  rw [← List.forall₂_eq_eq_eq, lowerAscii, lowerAscii, List.forall₂_map_left_iff,
    List.forall₂_map_right_iff]
  simp only [lowerAsciiChar_eq_iff]

theorem SameLetter.ascii (same : SameLetter c d) (ascii : d.toNat < 0x80) : c.toNat < 0x80 := by
  cases same with
  | same => exact ascii
  | capital first last apart => omega
  | small first last apart =>
      have last : d.toNat ≤ 90 := last
      omega

theorem SameLetter.all_ascii (same : List.Forall₂ SameLetter text name)
    (ascii : ∀ d ∈ name, d.toNat < 0x80) : ∀ c ∈ text, c.toNat < 0x80 := by
  induction same with
  | nil => exact ascii
  | cons first later ih =>
      rw [List.forall_mem_cons] at ascii ⊢
      exact ⟨first.ascii ascii.1, ih ascii.2⟩

namespace CaseRow

variable {row : CaseRow}

theorem covers_iff {code : Nat} : row.covers code = true ↔
    row.first ≤ code ∧ code ≤ row.last ∧ (code - row.first) % row.stride = 0 := by
  simp [covers, and_assoc]

/-- What the first row is, and that all others are beyond ASCII. -/
theorem lowerRows_eq : lowerRows = ⟨0x41, 0x5A, 1, 32⟩ :: lowerRows.tail ∧
    ∀ row ∈ lowerRows.tail, 0x80 ≤ row.first :=
  ⟨rfl, by decide +kernel⟩

/-- A row is within ASCII, is that of the sign of the kelvin, or is beyond ASCII in both cases, where the
lower case is a character indeed. -/
theorem lowerRows_cases : ∀ row ∈ lowerRows,
    row.last < 0x80 ∨ (row.first = 0x212A ∧ row.last = 0x212A ∧ row.offset = -8383) ∨
      0x80 ≤ row.first + row.offset ∧
        (row.last + row.offset < 0xD800 ∨
          0xDFFF < row.first + row.offset ∧ row.last + row.offset < 0x110000) := by
  decide +kernel

end CaseRow

theorem lowerChar_of_ascii (ascii : c.toNat < 0x80) : lowerChar c = [lowerAsciiChar c] := by
  have undotted : c ≠ '\u0130' := by
    rintro rfl
    exact absurd ascii (by decide)
  obtain ⟨rows, later⟩ := CaseRow.lowerRows_eq
  have missing : lowerRows.tail.find? (·.covers c.toNat) = none := by
    refine List.find?_eq_none.mpr fun row member covers => ?_
    have first := (CaseRow.covers_iff.mp covers).1
    have start := later row member
    omega
  have letter : CaseRow.covers ⟨0x41, 0x5A, 1, 32⟩ c.toNat = true ↔ 'A' ≤ c ∧ c ≤ 'Z' := by
    rw [CaseRow.covers_iff, Nat.mod_one, le_iff_toNat_le, le_iff_toNat_le, and_iff_left rfl]
    rfl
  rw [lowerChar, if_neg undotted, rows, List.find?_cons, missing, lowerAsciiChar]
  cases covered : CaseRow.covers ⟨0x41, 0x5A, 1, 32⟩ c.toNat with
  | true =>
      rw [if_pos (letter.mp covered)]
      rfl
  | false => rw [if_neg (mt letter.mpr (by simp [covered]))]

/-- Beyond ASCII only the sign of the kelvin has a lower case in ASCII. -/
theorem lowerChar_of_beyond (beyond : 0x80 ≤ c.toNat) :
    (c = '\u212a' ∧ lowerChar c = ['k']) ∨ ∃ d ∈ lowerChar c, 0x80 ≤ d.toNat := by
  unfold lowerChar
  split
  · exact .inr ⟨'\u0307', by simp, by decide⟩
  · split
    · rename_i row found
      have covered := List.find?_some found
      obtain ⟨first, last, -⟩ := CaseRow.covers_iff.mp covered
      rcases CaseRow.lowerRows_cases row (List.mem_of_find?_eq_some found) with
        low | ⟨kelvin, isLast, offset⟩ | ⟨high, valid⟩
      · omega
      · have same : c.toNat = '\u212a'.toNat := by
          change c.toNat = 0x212A
          omega
        refine .inl ⟨Char.toNat_inj.mp same, ?_⟩
        rw [same, offset]
        rfl
      · refine .inr ⟨_, List.mem_singleton_self _, ?_⟩
        rw [toNat_ofNat_of_valid (by unfold Nat.isValidChar; omega)]
        omega
    · exact .inr ⟨c, List.mem_singleton_self c, beyond⟩

theorem Distinctive.not_mem_of_beyond (distinctive : Distinctive name) (beyond : 0x80 ≤ c.toNat) :
    c ∉ name := by
  intro member
  have ascii := (distinctive c member).1
  omega

/-- A distinctive text does not begin with the lower case of a character beyond ASCII. -/
theorem Distinctive.ne_lowerChar_append (distinctive : Distinctive name) (beyond : 0x80 ≤ c.toNat)
    (lowered : List Char) : lowerChar c ++ lowered ≠ name := by
  rintro rfl
  rcases lowerChar_of_beyond beyond with ⟨-, kelvin⟩ | ⟨d, member, foreign⟩
  · exact (distinctive 'k' (by simp [kelvin])).2 rfl
  · exact distinctive.not_mem_of_beyond foreign (List.mem_append_left _ member)

theorem Distinctive.ne_lowerAscii_cons (distinctive : Distinctive name) (beyond : 0x80 ≤ c.toNat)
    (rest : List Char) : lowerAscii (c :: rest) ≠ name := by
  rintro rfl
  have member : c ∈ lowerAscii (c :: rest) := by
    simp [lowerAscii, lowerAsciiChar_of_beyond beyond]
  exact distinctive.not_mem_of_beyond beyond member

/-- A distinctive text is a lower case of a text exactly if it is its lower case in ASCII. -/
theorem Lowers.eq_iff (lowers : Lowers text lowered) (distinctive : Distinctive name) :
    lowered = name ↔ lowerAscii text = name := by
  induction lowers generalizing name with
  | nil => exact Iff.rfl
  | @char c rest lowered later ih =>
      -- Within ASCII both sides begin with the same character; beyond it neither is the text.
      by_cases ascii : c.toNat < 0x80
      · rw [lowerChar_of_ascii ascii]
        cases name with
        | nil => simp [lowerAscii]
        | cons d name =>
            have tail : Distinctive name := fun other member => distinctive other (by simp [member])
            simp only [List.cons_append, List.nil_append, lowerAscii, List.map_cons, List.cons.injEq]
            exact and_congr_right fun _ => ih tail
      · have beyond := Nat.le_of_not_lt ascii
        exact iff_of_false (distinctive.ne_lowerChar_append beyond _)
          (distinctive.ne_lowerAscii_cons beyond _)
  | @finalSigma rest lowered later ih =>
      refine iff_of_false ?_ (distinctive.ne_lowerAscii_cons (by decide) _)
      rintro rfl
      exact distinctive.not_mem_of_beyond (by decide) (List.mem_cons_self ..)

end VersionGate.Text
