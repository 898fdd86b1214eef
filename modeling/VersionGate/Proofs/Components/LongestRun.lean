import VersionGate.Proofs.Components.Written
import VersionGate.Proofs.Text.Prefix

/-!
The longest run of digit groups, and the components that are read from it.

The reader of components goes over a text once and decides at each dot whether the run goes on. What it
reads is shown to be the longest of all runs that the text begins with, so that no part of a run is ever
taken for the whole.
-/

namespace VersionGate

open Text

variable {text run tail group rest : List Char} {groups others : List (List Char)}
  {values : List Nat}

/-- A digit group: decimal digits of any script, at least one of them. -/
structure IsGroup (group : List Char) : Prop where
  nonempty : group ≠ []
  decimal : ∀ c ∈ group, isDecimalDigit c = true

instance : DecidablePred IsGroup := fun group =>
  decidable_of_iff (group ≠ [] ∧ group.all isDecimalDigit = true)
    ⟨fun both => ⟨both.1, List.all_eq_true.mp both.2⟩,
      fun isGroup => ⟨isGroup.nonempty, List.all_eq_true.mpr isGroup.decimal⟩⟩

/-- The text that digit groups make with single dots between them. -/
inductive IsRun : List (List Char) → List Char → Prop where
  | last {group : List Char} (isGroup : IsGroup group) : IsRun [group] group
  | dot {group : List Char} {groups : List (List Char)} {run : List Char} (isGroup : IsGroup group)
      (later : IsRun groups run) : IsRun (group :: groups) (group ++ '.' :: run)

/-- A run that a text begins with, with no longer one at the same place. -/
structure LongestRun (text run : List Char) (groups : List (List Char)) : Prop where
  isRun : IsRun groups run
  begins : run <+: text
  longest : ∀ others other, IsRun others other → other <+: text → other.length ≤ run.length

theorem isDecimalDigit_dot : isDecimalDigit '.' = false := by decide

theorem IsGroup.begins (isGroup : IsGroup group) (rest : List Char) :
    ∃ c ∈ (group ++ rest).head?, isDecimalDigit c = true := by
  obtain ⟨c, later, split⟩ := List.exists_cons_of_ne_nil isGroup.nonempty
  exact ⟨c, by simp [split], isGroup.decimal c (by simp [split])⟩

theorem IsRun.begins (isRun : IsRun groups run) (rest : List Char) :
    ∃ c ∈ (run ++ rest).head?, isDecimalDigit c = true := by
  cases isRun with
  | last isGroup => exact isGroup.begins rest
  | @dot group groups run isGroup later =>
      rw [List.append_assoc]
      exact isGroup.begins _

theorem IsGroup.takeWhile_append (isGroup : IsGroup group)
    (stops : ∀ c ∈ rest.head?, isDecimalDigit c = false) :
    (group ++ rest).takeWhile isDecimalDigit = group :=
  takeWhile_append_of_stops isGroup.decimal stops

theorem IsGroup.length_le (isGroup : IsGroup group) (rest : List Char) :
    group.length ≤ ((group ++ rest).takeWhile isDecimalDigit).length := by
  rw [List.takeWhile_append_of_pos isGroup.decimal]
  simp

/-- No run reaches beyond one that nothing carries on. -/
theorem IsRun.length_le {other : List Char} (isRun : IsRun groups run) (ends : EndsRun tail)
    (isOther : IsRun others other) (begins : other <+: run ++ tail) :
    other.length ≤ run.length := by
  induction isRun generalizing others other with
  | @last group isGroup =>
      have digits := isGroup.takeWhile_append ends.noDigit
      obtain ⟨after, split⟩ := begins
      cases isOther with
      | last isOther =>
          have bound := isOther.length_le after
          rwa [split, digits] at bound
      | @dot first _ later isFirst isLater =>
          rw [List.append_assoc, List.cons_append] at split
          have stops : ∀ c ∈ ('.' :: (later ++ after)).head?, isDecimalDigit c = false := by
            simp [isDecimalDigit_dot]
          have same : first = group := by
            rw [← isFirst.takeWhile_append stops, split, digits]
          subst same
          -- A second group after the dot would carry the run on.
          obtain ⟨c, next, digit⟩ := isLater.begins after
          have none := ends.noGroup (later ++ after) (List.append_cancel_left split).symm c next
          rw [none] at digit
          cases digit
  | @dot group groups run isGroup _ ih =>
      have stops (rest : List Char) : ∀ c ∈ ('.' :: rest).head?, isDecimalDigit c = false := by
        simp [isDecimalDigit_dot]
      rw [List.append_assoc, List.cons_append] at begins
      have digits := isGroup.takeWhile_append (stops (run ++ tail))
      obtain ⟨after, split⟩ := begins
      cases isOther with
      | last isOther =>
          have bound := isOther.length_le after
          rw [split, digits] at bound
          rw [List.length_append]
          omega
      | @dot first _ later isFirst isLater =>
          rw [List.append_assoc, List.cons_append] at split
          have same : first = group := by
            rw [← isFirst.takeWhile_append (stops (later ++ after)), split, digits]
          subst same
          have within : later ++ after = run ++ tail :=
            List.tail_eq_of_cons_eq (List.append_cancel_left split)
          have bound := ih isLater ⟨after, within⟩
          simp only [List.length_append, List.length_cons]
          omega

/-- A run that nothing carries on is read whole. -/
theorem IsRun.digitGroups_append (isRun : IsRun groups run) (ends : EndsRun tail) :
    digitGroups (run ++ tail) = groups := by
  induction isRun with
  | last isGroup => exact ends.digitGroups_append isGroup.nonempty isGroup.decimal
  | dot isGroup _ ih =>
      rw [List.append_assoc, List.cons_append,
        digitGroups_append_dot _ isGroup.nonempty isGroup.decimal, ih]

theorem IsRun.digitGroups_eq (isRun : IsRun groups run) : digitGroups run = groups := by
  have nothing : EndsRun [] := ⟨by simp, by simp⟩
  have read := isRun.digitGroups_append nothing
  rwa [List.append_nil] at read

/-- A digit before a run makes its first group longer. -/
theorem IsRun.cons_digit {c : Char} {later : List (List Char)} (digit : isDecimalDigit c = true)
    (isRun : IsRun (group :: later) run) : IsRun ((c :: group) :: later) (c :: run) := by
  have longer {group : List Char} (isGroup : IsGroup group) : IsGroup (c :: group) :=
    ⟨by simp, by simpa [digit] using isGroup.decimal⟩
  cases isRun with
  | last isGroup => exact .last (longer isGroup)
  | dot isGroup later => exact .dot (longer isGroup) later

/-- What the reader of groups reads is a run, and nothing carries that run on. -/
theorem digitGroups_isRun (text : List Char) :
    (digitGroups text = [] ∧ ∀ c ∈ text.head?, isDecimalDigit c = false) ∨
      ∃ run tail, text = run ++ tail ∧ IsRun (digitGroups text) run ∧ EndsRun tail := by
  have single {c : Char} (digit : isDecimalDigit c = true) : IsGroup [c] :=
    ⟨by simp, by simpa using digit⟩
  fun_induction digitGroups text with
  | case1 => exact .inl ⟨rfl, by simp⟩
  | case2 c digit => exact .inr ⟨[c], [], rfl, .last (single digit), by simp, by simp⟩
  | case3 c other => exact .inl ⟨rfl, by simpa using other⟩
  | case4 c next rest other => exact .inl ⟨rfl, by simpa using other⟩
  | case5 c rest digit ih =>
      have digit : isDecimalDigit c = true := by simpa using digit
      rcases ih with ⟨none, other⟩ | ⟨run, tail, split, isRun, ends⟩
      · -- The dot is not followed by a digit, so it is left to the tail.
        refine .inr ⟨[c], '.' :: rest, rfl, ?_, ?_, ?_⟩
        · rw [none]
          exact .last (single digit)
        · simp [isDecimalDigit_dot]
        · rintro later ⟨⟩
          exact other
      · exact .inr ⟨c :: '.' :: run, tail, by rw [split]; rfl, .dot (single digit) isRun, ends⟩
  | case6 c next rest digit noDot none ih =>
      have digit : isDecimalDigit c = true := by simpa using digit
      rcases ih with ⟨_, other⟩ | ⟨run, tail, split, isRun, ends⟩
      · refine .inr ⟨[c], next :: rest, rfl, .last (single digit), other, ?_⟩
        rintro later ⟨⟩
        exact absurd rfl noDot
      · rw [none] at isRun
        cases isRun
  | case7 c next rest digit noDot group later read ih =>
      have digit : isDecimalDigit c = true := by simpa using digit
      rcases ih with ⟨none, _⟩ | ⟨run, tail, split, isRun, ends⟩
      · rw [none] at read
        cases read
      · rw [read] at isRun
        exact .inr ⟨c :: run, tail, by rw [split]; rfl, isRun.cons_digit digit, ends⟩

theorem LongestRun.of_append (isRun : IsRun groups run) (ends : EndsRun tail) :
    LongestRun (run ++ tail) run groups where
  isRun
  begins := List.prefix_append run tail
  longest _ _ isOther begins := isRun.length_le ends isOther begins

theorem LongestRun.begins_digit (longest : LongestRun text run groups) :
    ∃ c ∈ text.head?, isDecimalDigit c = true := by
  obtain ⟨rest, split⟩ := longest.begins
  rw [← split]
  exact longest.isRun.begins rest

/-- The reader of groups reads the longest run. -/
theorem longestRun_iff : (∃ run, LongestRun text run groups) ↔
    digitGroups text = groups ∧ groups ≠ [] := by
  constructor
  · rintro ⟨run, longest⟩
    obtain ⟨c, first, digit⟩ := longest.begins_digit
    rcases digitGroups_isRun text with ⟨_, other⟩ | ⟨read, tail, split, isRun, ends⟩
    · rw [other c first] at digit
      cases digit
    · -- Two longest runs of one text are one run, and a run has its groups from its characters.
      have same : run = read := by
        have begins : read <+: text := ⟨tail, split.symm⟩
        have least := longest.longest _ read isRun begins
        have most := isRun.length_le ends longest.isRun (split ▸ longest.begins)
        exact (List.prefix_of_prefix_length_le longest.begins begins most).eq_of_length
          (Nat.le_antisymm most least)
      subst same
      rw [← isRun.digitGroups_eq, longest.isRun.digitGroups_eq]
      refine ⟨rfl, ?_⟩
      have isRun := longest.isRun
      rintro rfl
      cases isRun
  · rintro ⟨rfl, some⟩
    rcases digitGroups_isRun text with ⟨none, _⟩ | ⟨run, tail, split, isRun, ends⟩
    · exact absurd none some
    · have longest := LongestRun.of_append isRun ends
      rw [← split] at longest
      exact ⟨run, longest⟩

theorem exists_longestRun_iff : (∃ run groups, LongestRun text run groups) ↔
    ∃ c ∈ text.head?, isDecimalDigit c = true := by
  constructor
  · rintro ⟨run, groups, longest⟩
    exact longest.begins_digit
  · rintro ⟨c, first, digit⟩
    rcases digitGroups_isRun text with ⟨_, other⟩ | ⟨run, tail, split, isRun, ends⟩
    · rw [other c first] at digit
      cases digit
    · have longest := LongestRun.of_append isRun ends
      rw [← split] at longest
      exact ⟨run, _, longest⟩

/-- A digit group that is read as a number: of ASCII digits alone, and within 64 bits. -/
structure Legible (group : List Char) : Prop where
  ascii : ∀ c ∈ group, '0' ≤ c ∧ c ≤ '9'
  bounded : Nat.ofDigitChars 10 group 0 < 2 ^ 64

instance : DecidablePred Legible := fun group =>
  decidable_of_iff (group.all (fun c => '0' ≤ c ∧ c ≤ '9') = true ∧
      Nat.ofDigitChars 10 group 0 < 2 ^ 64)
    ⟨fun both => ⟨by simpa using both.1, both.2⟩,
      fun legible => ⟨by simpa using legible.ascii, legible.bounded⟩⟩

theorem foldl_decimalValue_none (digits : List Char) :
    digits.foldl
        (fun value? c => value?.bind fun value => (asciiDigitValue? c).map (10 * value + ·)) none =
      none := by
  induction digits with
  | nil => rfl
  | cons c rest ih => exact ih

theorem decimalValue?_of_foreign {digits : List Char} {c : Char} (member : c ∈ digits)
    (foreign : ¬ ('0' ≤ c ∧ c ≤ '9')) : decimalValue? digits = none := by
  obtain ⟨before, after, rfl⟩ := List.append_of_mem member
  have unread : asciiDigitValue? c = none := by simp [asciiDigitValue?, foreign]
  -- Whatever the digits before it came to, the foreign one comes to nothing.
  simp [decimalValue?, List.foldl_append, unread, foldl_decimalValue_none]

theorem component?_eq_some_iff {value : Nat} :
    component? group = some value ↔ Legible group ∧ value = Nat.ofDigitChars 10 group 0 := by
  by_cases ascii : ∀ c ∈ group, '0' ≤ c ∧ c ≤ '9'
  · have read : decimalValue? group = some (Nat.ofDigitChars 10 group 0) :=
      foldl_decimalValue ascii 0
    have legible : Legible group ↔ Nat.ofDigitChars 10 group 0 < componentLimit :=
      ⟨Legible.bounded, fun bounded => ⟨ascii, bounded⟩⟩
    rw [legible, component?, read, Option.filter_some]
    by_cases bounded : Nat.ofDigitChars 10 group 0 < componentLimit
    · simp [bounded, eq_comm]
    · simp [bounded]
  · have unread : decimalValue? group = none := by
      obtain ⟨c, foreign⟩ := not_forall.mp ascii
      obtain ⟨member, foreign⟩ := Classical.not_imp.mp foreign
      exact decimalValue?_of_foreign member foreign
    simp only [component?, unread, Option.filter_none, reduceCtorEq, false_iff]
    exact fun read => ascii read.1.ascii

theorem mapM_component?_eq_some_iff :
    groups.mapM component? = some values ↔
      (∀ group ∈ groups, Legible group) ∧ values = groups.map (Nat.ofDigitChars 10 · 0) := by
  induction groups generalizing values with
  | nil => simp [eq_comm]
  | cons group groups ih =>
      rw [List.mapM_cons]
      constructor
      · intro read
        obtain ⟨value, first, read⟩ := Option.bind_eq_some_iff.mp read
        obtain ⟨later, rest, read⟩ := Option.bind_eq_some_iff.mp read
        cases read
        obtain ⟨legible, rfl⟩ := component?_eq_some_iff.mp first
        obtain ⟨others, rfl⟩ := ih.mp rest
        exact ⟨by simpa using ⟨legible, others⟩, rfl⟩
      · rintro ⟨legible, rfl⟩
        rw [component?_eq_some_iff.mpr ⟨legible group (by simp), rfl⟩,
          ih.mpr ⟨fun other member => legible other (by simp [member]), rfl⟩]
        rfl

theorem mapM_component?_eq_none_iff :
    groups.mapM component? = none ↔ ∃ group ∈ groups, ¬ Legible group := by
  rw [Option.eq_none_iff_forall_ne_some]
  simp only [ne_eq, mapM_component?_eq_some_iff, not_and]
  constructor
  · intro none
    by_contra legible
    exact none _ (by simpa using legible) rfl
  · rintro ⟨group, member, illegible⟩ values legible
    exact absurd (legible group member) illegible

/-- A text less one copy of a stem at its start, if there is one. -/
inductive LessStem (stem : List Char) : List Char → List Char → Prop where
  | present (rest : List Char) : LessStem stem (stem ++ rest) rest
  | absent {text : List Char} (other : ¬ stem <+: text) : LessStem stem text text

theorem LessStem.dropStem_eq {stem : List Char} (less : LessStem stem text rest) :
    dropStem stem text = rest := by
  cases less with
  | present => exact WrittenVersion.dropStem_append stem rest
  | absent other =>
      rw [dropStem, if_neg]
      rwa [List.isPrefixOf_iff_prefix]

theorem LessStem.dropMark_eq (less : LessStem ['v'] text rest) : dropMark text = rest := by
  cases less with
  | present => rfl
  | absent other =>
      rw [dropMark, if_neg]
      intro first
      exact other ⟨text.tail, List.cons_head?_tail first⟩

theorem LongestRun.groups_unique {other : List Char} (longest : LongestRun text run groups)
    (again : LongestRun text other others) : others = groups := by
  have read := (longestRun_iff.mp ⟨run, longest⟩).1
  have readAgain := (longestRun_iff.mp ⟨other, again⟩).1
  exact readAgain.symm.trans read

section

variable {version toolchain : String} {unnamed : List Char}

theorem components?_of_longestRun (name : LessStem toolchain.toList version.toList unnamed)
    (mark : LessStem ['v'] unnamed rest) (longest : LongestRun rest run groups) :
    components? version toolchain = groups.mapM component? := by
  obtain ⟨read, nonempty⟩ := longestRun_iff.mp ⟨run, longest⟩
  rw [components?, name.dropStem_eq, mark.dropMark_eq, read]
  cases groups with
  | nil => exact absurd rfl nonempty
  | cons group groups => rfl

theorem components?_of_no_digit (name : LessStem toolchain.toList version.toList unnamed)
    (mark : LessStem ['v'] unnamed rest) (noDigit : ∀ c ∈ rest.head?, isDecimalDigit c = false) :
    components? version toolchain = none := by
  rw [components?, name.dropStem_eq, mark.dropMark_eq, digitGroups_of_no_digit noDigit]

/-- The components of a version are read from the longest run that is left of it once its toolchain name
and a v are dropped: they are the numbers of all groups of that run, or there are none at all. None are
read of a text that begins with no digit, and none of a run with a group that is not legible. -/
theorem components_of_longest_run (name : LessStem toolchain.toList version.toList unnamed)
    (mark : LessStem ['v'] unnamed rest) :
    (∀ values, components? version toolchain = some values ↔
      ∃ run groups, LongestRun rest run groups ∧ (∀ group ∈ groups, Legible group) ∧
        values = groups.map (Nat.ofDigitChars 10 · 0)) ∧
    (components? version toolchain = none ↔ (∀ c ∈ rest.head?, isDecimalDigit c = false) ∨
      ∃ run groups, LongestRun rest run groups ∧ ∃ group ∈ groups, ¬ Legible group) := by
  by_cases begins : ∃ c ∈ rest.head?, isDecimalDigit c = true
  · obtain ⟨run, groups, longest⟩ := exists_longestRun_iff.mpr begins
    rw [components?_of_longestRun name mark longest]
    refine ⟨fun values => ?_, ?_⟩
    · rw [mapM_component?_eq_some_iff]
      constructor
      · rintro ⟨legible, rfl⟩
        exact ⟨run, groups, longest, legible, rfl⟩
      · rintro ⟨other, others, again, legible, rfl⟩
        cases longest.groups_unique again
        exact ⟨legible, rfl⟩
    · rw [mapM_component?_eq_none_iff]
      constructor
      · exact fun illegible => .inr ⟨run, groups, longest, illegible⟩
      · rintro (noDigit | ⟨other, others, again, illegible⟩)
        · obtain ⟨c, first, digit⟩ := begins
          rw [noDigit c first] at digit
          cases digit
        · cases longest.groups_unique again
          exact illegible
  · have noRun {run : List Char} {groups : List (List Char)} : ¬ LongestRun rest run groups :=
      fun longest => begins longest.begins_digit
    have noDigit : ∀ c ∈ rest.head?, isDecimalDigit c = false := by
      simpa using begins
    rw [components?_of_no_digit name mark noDigit]
    simp only [noRun, false_and, exists_false, reduceCtorEq, implies_true, true_and, or_false,
      true_iff]
    exact noDigit

end

/-- The run of `007.18446744073709551615.rc1` ends before its last dot, and both of its groups are read;
with one more in the last group there is no shorter list either. An Arabic three after `1.2` belongs to the
run, so that nothing is read of it. -/
theorem components_of_longest_run_bound :
    components? "gov007.18446744073709551615.rc1" "go" = some [7, 18446744073709551615] ∧
      components? "v007.18446744073709551616" "go" = none ∧
      components? "go1.2\u0663" "go" = none := by
  have zeros : IsGroup "007".toList := by decide
  refine ⟨?_, ?_, ?_⟩
  · have run : IsRun ["007".toList, "18446744073709551615".toList] "007.18446744073709551615".toList :=
      .dot zeros (.last (by decide))
    have ends : EndsRun ".rc1".toList :=
      ⟨by rintro c ⟨⟩; decide, by rintro rest ⟨⟩ c ⟨⟩; decide⟩
    have name : LessStem "go".toList "gov007.18446744073709551615.rc1".toList
        "v007.18446744073709551615.rc1".toList := .present _
    refine ((components_of_longest_run name (.present _)).1 _).mpr
      ⟨_, _, .of_append run ends, ?_, by decide⟩
    intro group member
    simp only [List.mem_cons, List.not_mem_nil, or_false] at member
    rcases member with rfl | rfl
    · decide
    · decide
  · have run : IsRun ["007".toList, "18446744073709551616".toList] "007.18446744073709551616".toList :=
      .dot zeros (.last (by decide))
    have name : LessStem "go".toList "v007.18446744073709551616".toList
        "v007.18446744073709551616".toList := .absent (by decide)
    have longest : LongestRun "007.18446744073709551616".toList _ _ :=
      .of_append run ⟨by simp, by simp⟩
    refine (components_of_longest_run name (.present _)).2.mpr
      (.inr ⟨_, _, longest, "18446744073709551616".toList, by simp, ?_⟩)
    decide
  · have run : IsRun ["1".toList, "2\u0663".toList] "1.2\u0663".toList :=
      .dot (by decide) (.last (by decide))
    have name : LessStem "go".toList "go1.2\u0663".toList "1.2\u0663".toList := .present _
    have longest : LongestRun "1.2\u0663".toList _ _ := .of_append run ⟨by simp, by simp⟩
    refine (components_of_longest_run name (.absent (by decide))).2.mpr
      (.inr ⟨_, _, longest, "2\u0663".toList, by simp, ?_⟩)
    decide

end VersionGate
