import VersionGate.Proofs.ToolchainName

namespace VersionGate

/-- Two written versions whose components have the same widths, place by place, with the same text around
the components. -/
structure Aligned (left right : WrittenVersion) : Prop where
  mark : left.marked = right.marked
  widths : List.Forall₂ (fun numeral other => numeral.digits.length = other.digits.length)
    left.numerals right.numerals
  tail : left.tail = right.tail

theorem compare_append_of_length_eq {front other left right : List Nat}
    (sameLength : front.length = other.length) :
    compare (front ++ left) (other ++ right) = (compare front other).then (compare left right) := by
  induction front generalizing other with
  | nil =>
      cases List.eq_nil_of_length_eq_zero sameLength.symm
      rfl
  | cons first front ih =>
      cases other with
      | nil => simp at sameLength
      | cons second other =>
          have later := ih (by simpa using sameLength)
          rw [List.cons_append, List.cons_append, List.compare_cons_cons, List.compare_cons_cons,
            later, Ordering.then_assoc]

theorem compare_next_digit {low high digit other : Nat} (bound : digit < 10) (otherBound : other < 10) :
    compare (10 * low + digit) (10 * high + other) =
      (compare low high).then (compare digit other) := by
  rcases Nat.lt_trichotomy low high with less | rfl | greater
  · have before : 10 * low + digit < 10 * high + other := by omega
    rw [Nat.compare_eq_lt.mpr less, Nat.compare_eq_lt.mpr before]
    rfl
  · rw [Nat.compare_eq_eq.mpr rfl]
    rcases Nat.lt_trichotomy digit other with less | rfl | greater
    · rw [Nat.compare_eq_lt.mpr less, Nat.compare_eq_lt.mpr (by omega)]
      rfl
    · rw [Nat.compare_eq_eq.mpr rfl, Nat.compare_eq_eq.mpr rfl]
      rfl
    · rw [Nat.compare_eq_gt.mpr greater, Nat.compare_eq_gt.mpr (by omega)]
      rfl
  · have after : 10 * high + other < 10 * low + digit := by omega
    rw [Nat.compare_eq_gt.mpr greater, Nat.compare_eq_gt.mpr after]
    rfl

theorem compare_digitValue {c d : Char} (ascii : '0' ≤ c ∧ c ≤ '9') (otherAscii : '0' ≤ d ∧ d ≤ '9') :
    compare (c.toNat - 48) (d.toNat - 48) = compare c.toNat d.toNat := by
  have zero : 48 ≤ c.toNat := ascii.1
  have otherZero : 48 ≤ d.toNat := otherAscii.1
  rcases Nat.lt_trichotomy c.toNat d.toNat with less | same | greater
  · rw [Nat.compare_eq_lt.mpr less, Nat.compare_eq_lt.mpr (by omega)]
  · rw [same, Nat.compare_eq_eq.mpr rfl, Nat.compare_eq_eq.mpr rfl]
  · rw [Nat.compare_eq_gt.mpr greater, Nat.compare_eq_gt.mpr (by omega)]

/-- The values that digits of one width add to two numbers are ordered as those numbers are, and where
these are equal as the digits are. -/
theorem compare_ofDigitChars {left right : List Char} (sameLength : left.length = right.length)
    (ascii : ∀ c ∈ left, '0' ≤ c ∧ c ≤ '9') (otherAscii : ∀ c ∈ right, '0' ≤ c ∧ c ≤ '9')
    (low high : Nat) :
    compare (Nat.ofDigitChars 10 left low) (Nat.ofDigitChars 10 right high) =
      (compare low high).then (compare (left.map Char.toNat) (right.map Char.toNat)) := by
  induction left generalizing right low high with
  | nil =>
      cases List.eq_nil_of_length_eq_zero sameLength.symm
      simp
  | cons c left ih =>
      cases right with
      | nil => simp at sameLength
      | cons d right =>
          have digit := ascii c (by simp)
          have otherDigit := otherAscii d (by simp)
          have nine : c.toNat ≤ 57 := digit.2
          have otherNine : d.toNat ≤ 57 := otherDigit.2
          have later := ih (by simpa using sameLength) (fun e member => ascii e (by simp [member]))
            (fun e member => otherAscii e (by simp [member]))
            (10 * low + (c.toNat - 48)) (10 * high + (d.toNat - 48))
          have next : compare (10 * low + (c.toNat - 48)) (10 * high + (d.toNat - 48)) = _ :=
            compare_next_digit (by omega) (by omega)
          calc compare (Nat.ofDigitChars 10 (c :: left) low) (Nat.ofDigitChars 10 (d :: right) high)
              = (compare (10 * low + (c.toNat - 48)) (10 * high + (d.toNat - 48))).then
                  (compare (left.map Char.toNat) (right.map Char.toNat)) := later
            _ = ((compare low high).then (compare c.toNat d.toNat)).then
                  (compare (left.map Char.toNat) (right.map Char.toNat)) := by
                rw [next, compare_digitValue digit otherDigit]
            _ = _ := by
                rw [Ordering.then_assoc, List.map_cons, List.map_cons, List.compare_cons_cons]

theorem Numeral.compare_digits {numeral other : Numeral}
    (sameWidth : numeral.digits.length = other.digits.length) :
    compare (numeral.digits.map Char.toNat) (other.digits.map Char.toNat) =
      compare numeral.value other.value :=
  (compare_ofDigitChars sameWidth numeral.ascii other.ascii 0 0).symm

theorem compare_digits_append {numeral other : Numeral} (left right : List Char)
    (sameWidth : numeral.digits.length = other.digits.length) :
    compare ((numeral.digits ++ left).map Char.toNat) ((other.digits ++ right).map Char.toNat) =
      (compare numeral.value other.value).then
        (compare (left.map Char.toNat) (right.map Char.toNat)) := by
  rw [List.map_append, List.map_append, compare_append_of_length_eq (by simpa using sameWidth),
    Numeral.compare_digits sameWidth]

/-- Numerals of the same widths are ordered as written as their values are as components. -/
theorem compare_dotted {left right : List Numeral} (tail : List Char)
    (widths : List.Forall₂ (fun numeral other => numeral.digits.length = other.digits.length)
      left right) :
    compare ((dotted left ++ tail).map Char.toNat) ((dotted right ++ tail).map Char.toNat) =
      compareComponents (left.map (·.value)) (right.map (·.value)) := by
  induction widths with
  | nil =>
      rw [Std.ReflOrd.compare_self, List.map_nil, compareComponents]
  | @cons numeral other left right sameWidth widths ih =>
      rw [List.map_cons, List.map_cons, compareComponents, ← ih]
      cases widths with
      | nil =>
          simp only [dotted, List.map_cons, List.map_nil, List.intercalate_singleton]
          rw [compare_digits_append _ _ sameWidth]
          rfl
      | cons =>
          -- The dot after either numeral is no more than a common beginning of what follows.
          rw [dotted_cons_cons, dotted_cons_cons, List.append_assoc, List.append_assoc,
            compare_digits_append _ _ sameWidth, List.cons_append, List.cons_append, List.map_cons,
            List.map_cons, List.compare_cons_cons, Nat.compare_eq_eq.mpr rfl]
          rfl

namespace Aligned

variable {installed required : WrittenVersion}

theorem compareBytes_eq (aligned : Aligned installed required) (toolchain : String) :
    compareBytes (toolchain ++ installed.text) (toolchain ++ required.text) =
      compareComponents installed.values required.values := by
  rw [compareBytes_append]
  simp only [compareBytes, WrittenVersion.text, String.toList_ofList, Text.Utf8.compare_encode,
    WrittenVersion.chars, aligned.mark, aligned.tail]
  rw [List.map_append, @List.map_append _ _ _ _ (dotted required.numerals ++ required.tail),
    Text.Utf8.compare_append_left]
  exact compare_dotted required.tail aligned.widths

/-- Either comparison succeeds on aligned versions, with the order of their components. -/
theorem order_eq (aligned : Aligned installed required) (toolchain : String)
    (comparison : Comparison) :
    comparison.order (toolchain ++ installed.text) (toolchain ++ required.text) toolchain =
      .ok (compareComponents installed.values required.values) := by
  cases comparison with
  | lexical => rw [order_lexical, aligned.compareBytes_eq]
  | numeric => rw [order_numeric, installed.components?_append, required.components?_append]

end Aligned

namespace Gate

variable {installed required : String} {ordering : Ordering} {report : Report}

/-- A report is not contradicted by the numeric order where both comparisons give the same. -/
theorem lexicalDisagrees_of_same_order (gate : Gate)
    (same : ∀ comparison : Comparison,
      comparison.order installed required gate.toolchain = .ok ordering)
    (judged : gate.evaluate installed required = .ok report) : report.lexicalDisagrees = false := by
  rw [evaluate_of_order (same gate.comparison)] at judged
  cases judged
  cases compared : gate.comparison with
  | numeric => exact Report.lexicalDisagrees_of_numeric compared
  | lexical =>
      have numeric : Comparison.numeric.order installed required gate.toolchain = .ok ordering :=
        same .numeric
      rw [Report.lexicalDisagrees_of_lexical compared]
      simp only [reportOn, numeric, bne_self_eq_false]

end Gate

open Cli in
/-- Lexical ordering is right where the widths of the components line up. Two aligned versions behind the
same toolchain name are in one order under either comparison, and a check of them never warns about lexical
ordering, whatever its options. -/
theorem aligned_versions_order_alike (toolchain : String) (installed required : WrittenVersion)
    (aligned : Aligned installed required) :
    (∃ ordering, ∀ comparison : Comparison,
      comparison.order (toolchain ++ installed.text) (toolchain ++ required.text) toolchain =
        .ok ordering) ∧
    ∀ (options : CheckOptions) (host : Host) (mode : Ui.Mode) (given : Option Source),
      options.toolchain = toolchain → options.minVersion = some required.text →
      (∀ source, given = some source → source.Silent) →
      options.answer host given = .ok (toolchain ++ installed.text) →
      warnings (options.check host mode given).events = [] := by
  have ordered := aligned.order_eq toolchain
  refine ⟨⟨_, ordered⟩, fun options host mode given named wanted silent answered => ?_⟩
  subst named
  by_contra warned
  obtain ⟨report, found, disagrees⟩ := (CheckOptions.warnings_ne_nil_iff options wanted silent).mp warned
  rw [CheckOptions.finding_eq, answered] at found
  have judged : options.gate.evaluate (options.toolchain ++ installed.text)
      (options.toolchain ++ required.text) = .ok report := found
  have agrees := options.gate.lexicalDisagrees_of_same_order ordered judged
  rw [agrees] at disagrees
  cases disagrees

/-- The versions `go1.09rc1` and `go1.10rc1`, whose second components both have two digits. -/
theorem aligned_versions_order_alike_padded :
    Comparison.lexical.order "go1.09rc1" "go1.10rc1" "go" =
        Comparison.numeric.order "go1.09rc1" "go1.10rc1" "go" ∧
      warnings ({ minVersion := some "1.10rc1" : Cli.CheckOptions }.check
        (fun _ => .error (.system 2)) .normal
        (some (.fixed "go version go1.09rc1 linux/amd64\n"))).events = [] := by
  let one : Numeral := ⟨['1'], by decide, by simp, by decide⟩
  let nine : Numeral := ⟨['0', '9'], by decide, by simp, by decide⟩
  let ten : Numeral := ⟨['1', '0'], by decide, by simp, by decide⟩
  have ends : EndsRun ['r', 'c', '1'] := ⟨by rintro c ⟨⟩; rfl, by simp⟩
  let installed : WrittenVersion := ⟨false, [one, nine], by simp, ['r', 'c', '1'], ends⟩
  let required : WrittenVersion := ⟨false, [one, ten], by simp, ['r', 'c', '1'], ends⟩
  have aligned : Aligned installed required := ⟨rfl, .cons rfl (.cons rfl .nil), rfl⟩
  obtain ⟨⟨ordering, ordered⟩, unwarned⟩ :=
    aligned_versions_order_alike "go" installed required aligned
  refine ⟨(ordered .lexical).trans (ordered .numeric).symm, ?_⟩
  refine unwarned _ _ _ _ rfl rfl (fun source same => ?_) (by cbv)
  cases same
  exact Source.silent_fixed _

end VersionGate
