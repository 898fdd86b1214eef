import Mathlib.Algebra.Ring.Nat
import Mathlib.Data.List.Basic
import VersionGate.Components

namespace VersionGate

open Text

/-- A component as it is written: ASCII digits, with any number of leading zeros among them. -/
structure Numeral where
  digits : List Char
  nonempty : digits ≠ []
  ascii : ∀ c ∈ digits, '0' ≤ c ∧ c ≤ '9'
  bounded : Nat.ofDigitChars 10 digits 0 < 2 ^ 64

def Numeral.value (numeral : Numeral) : Nat :=
  Nat.ofDigitChars 10 numeral.digits 0

/-- A text that does not carry on a run of digits and dots before it. -/
structure EndsRun (text : List Char) : Prop where
  noDigit : ∀ c ∈ text.head?, isDecimalDigit c = false
  noGroup : ∀ rest, text = '.' :: rest → ∀ c ∈ rest.head?, isDecimalDigit c = false

def dotted (numerals : List Numeral) : List Char :=
  ['.'].intercalate (numerals.map (·.digits))

theorem dotted_cons_cons (numeral next : Numeral) (rest : List Numeral) :
    dotted (numeral :: next :: rest) = numeral.digits ++ '.' :: dotted (next :: rest) := by
  simp [dotted]

theorem isDecimalDigit_of_ascii {c : Char} (ascii : '0' ≤ c ∧ c ≤ '9') :
    isDecimalDigit c = true := by
  have lower : 0x30 ≤ c.toNat := ascii.1
  have upper : c.toNat ≤ 0x39 := ascii.2
  simp [isDecimalDigit, decimalDigit, CharClass.contains, lower, upper]

theorem Numeral.decimal (numeral : Numeral) : ∀ c ∈ numeral.digits, isDecimalDigit c = true :=
  fun c member => isDecimalDigit_of_ascii (numeral.ascii c member)

theorem digitGroups_of_no_digit {text : List Char}
    (noDigit : ∀ c ∈ text.head?, isDecimalDigit c = false) : digitGroups text = [] := by
  match text with
  | [] => rfl
  | [c] =>
      have other := noDigit c rfl
      simp [digitGroups, other]
  | c :: next :: rest =>
      have other := noDigit c rfl
      simp [digitGroups, other]

/-- What follows a group is read the same way whether the group has one digit or more. -/
theorem digitGroups_append {digits rest : List Char} {later : List (List Char)}
    (nonempty : digits ≠ []) (decimal : ∀ c ∈ digits, isDecimalDigit c = true)
    (single : ∀ c, isDecimalDigit c = true → digitGroups (c :: rest) = [c] :: later) :
    digitGroups (digits ++ rest) = digits :: later := by
  induction digits with
  | nil => exact absurd rfl nonempty
  | cons c following ih =>
      have digit := decimal c (by simp)
      cases following with
      | nil => exact single c digit
      | cons next following =>
          have tail := ih (by simp) fun d member => decimal d (by simp [member])
          have noDot : next ≠ '.' := by
            rintro rfl
            have wrong := decimal '.' (by simp)
            exact absurd wrong (by decide)
          simp only [List.cons_append] at tail ⊢
          simp [digitGroups, digit, noDot, tail]

/-- A group ends at a dot, and the groups after the dot are read on their own. -/
theorem digitGroups_append_dot {digits : List Char} (rest : List Char) (nonempty : digits ≠ [])
    (decimal : ∀ c ∈ digits, isDecimalDigit c = true) :
    digitGroups (digits ++ '.' :: rest) = digits :: digitGroups rest :=
  digitGroups_append nonempty decimal fun c digit => by simp [digitGroups, digit]

/-- A group ends where neither a digit nor a dot follows, and it is the last one. -/
theorem digitGroups_append_other {digits rest : List Char} (nonempty : digits ≠ [])
    (decimal : ∀ c ∈ digits, isDecimalDigit c = true)
    (other : ∀ c ∈ rest.head?, isDecimalDigit c = false ∧ c ≠ '.') :
    digitGroups (digits ++ rest) = [digits] := by
  refine digitGroups_append nonempty decimal fun c digit => ?_
  cases rest with
  | nil => simp [digitGroups, digit]
  | cons next rest =>
      obtain ⟨noDigit, noDot⟩ := other next rfl
      have none : digitGroups (next :: rest) = [] :=
        digitGroups_of_no_digit (by simpa using noDigit)
      simp [digitGroups, digit, noDot, none]

theorem EndsRun.digitGroups_append {digits tail : List Char} (ends : EndsRun tail)
    (nonempty : digits ≠ []) (decimal : ∀ c ∈ digits, isDecimalDigit c = true) :
    digitGroups (digits ++ tail) = [digits] := by
  by_cases dot : ∃ rest, tail = '.' :: rest
  · obtain ⟨rest, rfl⟩ := dot
    rw [digitGroups_append_dot rest nonempty decimal,
      digitGroups_of_no_digit (ends.noGroup rest rfl)]
  · refine digitGroups_append_other nonempty decimal fun c first => ⟨ends.noDigit c first, ?_⟩
    rintro rfl
    exact dot ⟨tail.tail, (List.cons_head?_tail first).symm⟩

/-- The longest run in a written version is the run it is written with. -/
theorem digitGroups_dotted {numerals : List Numeral} {tail : List Char} (nonempty : numerals ≠ [])
    (ends : EndsRun tail) :
    digitGroups (dotted numerals ++ tail) = numerals.map (·.digits) := by
  induction numerals with
  | nil => exact absurd rfl nonempty
  | cons numeral rest ih =>
      cases rest with
      | nil =>
          simpa [dotted] using ends.digitGroups_append numeral.nonempty numeral.decimal
      | cons next rest =>
          have later := ih (by simp)
          rw [dotted_cons_cons, List.append_assoc, List.cons_append,
            digitGroups_append_dot _ numeral.nonempty numeral.decimal, later]
          rfl

theorem foldl_decimalValue {digits : List Char} (ascii : ∀ c ∈ digits, '0' ≤ c ∧ c ≤ '9')
    (value : Nat) :
    digits.foldl
        (fun value? c => value?.bind fun value => (asciiDigitValue? c).map (10 * value + ·))
        (some value) =
      some (Nat.ofDigitChars 10 digits value) := by
  induction digits generalizing value with
  | nil => simp
  | cons c rest ih =>
      have digit := ascii c (by simp)
      have next := ih (fun d member => ascii d (by simp [member])) (10 * value + (c.toNat - 48))
      rw [Nat.ofDigitChars_cons]
      simpa [asciiDigitValue?, digit] using next

theorem Numeral.component?_eq (numeral : Numeral) :
    component? numeral.digits = some numeral.value := by
  have read : decimalValue? numeral.digits = some numeral.value :=
    foldl_decimalValue numeral.ascii 0
  have bounded : numeral.value < componentLimit := numeral.bounded
  simp [component?, read, bounded]

theorem mapM_component?_eq (numerals : List Numeral) :
    (numerals.map (·.digits)).mapM component? = some (numerals.map (·.value)) := by
  induction numerals with
  | nil => rfl
  | cons numeral rest ih => simp [List.mapM_cons, numeral.component?_eq, ih]

/-- A version as it is written without a toolchain name: numerals with dots between them, the letter v
before them or not, and after them a text that does not carry them on. -/
structure WrittenVersion where
  marked : Bool
  numerals : List Numeral
  nonempty : numerals ≠ []
  tail : List Char
  ends : EndsRun tail

namespace WrittenVersion

def chars (version : WrittenVersion) : List Char :=
  (if version.marked then ['v'] else []) ++ (dotted version.numerals ++ version.tail)

def text (version : WrittenVersion) : String :=
  String.ofList version.chars

def values (version : WrittenVersion) : List Nat :=
  version.numerals.map (·.value)

end WrittenVersion

/-- A text that begins with an ASCII digit, or with the letter v and an ASCII digit. -/
def BeginsVersion (text : List Char) : Prop :=
  ∃ c rest, ('0' ≤ c ∧ c ≤ '9') ∧ (text = c :: rest ∨ text = 'v' :: c :: rest)

theorem dotted_eq_cons {numerals : List Numeral} (nonempty : numerals ≠ []) :
    ∃ c rest, ('0' ≤ c ∧ c ≤ '9') ∧ dotted numerals = c :: rest := by
  cases numerals with
  | nil => exact absurd rfl nonempty
  | cons numeral later =>
      obtain ⟨c, rest, digits⟩ := List.exists_cons_of_ne_nil numeral.nonempty
      have ascii := numeral.ascii c (by simp [digits])
      cases later with
      | nil => exact ⟨c, rest, ascii, by simp [dotted, digits]⟩
      | cons next later => exact ⟨c, _, ascii, by simp [dotted, digits]; rfl⟩

theorem dropMark_of_digit {c : Char} {rest : List Char} (ascii : '0' ≤ c ∧ c ≤ '9') :
    dropMark (c :: rest) = c :: rest := by
  have other : c ≠ 'v' := by
    rintro rfl
    exact absurd ascii (by decide)
  simp [dropMark, other]

namespace WrittenVersion

theorem dropMark_chars (version : WrittenVersion) :
    dropMark version.chars = dotted version.numerals ++ version.tail := by
  obtain ⟨c, rest, ascii, first⟩ := dotted_eq_cons version.nonempty
  cases marked : version.marked with
  | true => simp [chars, marked, dropMark]
  | false =>
      simp only [chars, marked, Bool.false_eq_true, if_false, List.nil_append, first,
        List.cons_append]
      exact dropMark_of_digit ascii

theorem groups_eq (version : WrittenVersion) :
    (match digitGroups (dropMark version.chars) with
      | [] => none
      | groups => groups.mapM component?) = some version.values := by
  rw [dropMark_chars, digitGroups_dotted version.nonempty version.ends]
  cases written : version.numerals with
  | nil => exact absurd written version.nonempty
  | cons numeral rest =>
      have read := mapM_component?_eq (numeral :: rest)
      rw [values, written, ← read]
      rfl

theorem dropStem_append (stem rest : List Char) : dropStem stem (stem ++ rest) = rest := by
  simp [dropStem]

/-- The toolchain name before a version is no part of it, whatever the name is. -/
theorem components?_append (version : WrittenVersion) (toolchain : String) :
    components? (toolchain ++ version.text) toolchain = some version.values := by
  have stem : dropStem toolchain.toList (toolchain ++ version.text).toList = version.chars := by
    rw [String.toList_append, text, String.toList_ofList, dropStem_append]
  simp only [components?, stem]
  exact version.groups_eq

/-- A toolchain name that could not begin a version takes nothing from one, unless it is the letter
v, which would be dropped all the same. -/
theorem dropMark_dropStem (version : WrittenVersion) {stem : List Char}
    (foreign : ¬ BeginsVersion stem) :
    dropMark (dropStem stem version.chars) = dropMark version.chars := by
  obtain ⟨c, rest, ascii, first⟩ := dotted_eq_cons version.nonempty
  by_cases begins : stem <+: version.chars
  · obtain ⟨after, split⟩ := begins
    rw [← split, dropStem_append]
    simp only [chars, first, List.cons_append] at split
    match stem with
    | [] => rfl
    | s :: stem =>
        cases marked : version.marked with
        | false =>
            simp only [marked, Bool.false_eq_true, if_false, List.nil_append, List.cons_append,
              List.cons.injEq] at split
            exact absurd ⟨s, stem, split.1 ▸ ascii, .inl rfl⟩ foreign
        | true =>
            simp only [marked, if_true, List.cons_append, List.nil_append, List.cons.injEq] at split
            obtain ⟨rfl, split⟩ := split
            match stem with
            | [] =>
                rw [List.nil_append] at split
                rw [split, dropMark_of_digit ascii]
                rfl
            | d :: stem =>
                simp only [List.cons_append, List.cons.injEq] at split
                exact absurd ⟨d, stem, split.1 ▸ ascii, .inr rfl⟩ foreign
  · have kept : dropStem stem version.chars = version.chars := by
      rw [dropStem, if_neg]
      rwa [List.isPrefixOf_iff_prefix]
    rw [kept]

theorem components?_of_foreign (version : WrittenVersion) {toolchain : String}
    (foreign : ¬ BeginsVersion toolchain.toList) :
    components? version.text toolchain = some version.values := by
  have stem := version.dropMark_dropStem foreign
  simp only [components?, text, String.toList_ofList, stem]
  exact version.groups_eq

end WrittenVersion

end VersionGate
