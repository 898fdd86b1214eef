import VersionGate.Proofs.OrderingWarning

/-!
The toolchain name has no part in a verdict.

Both versions of a check begin with the name of the toolchain. A common beginning cancels out of the order
of bytes, and the name is dropped once from either version before its components are read. What is left
is the order of the rests, for every name: also for one with digits, dots or a v in it, and for one that
the rest begins with again.
-/

namespace VersionGate

variable {stem left right : String} {comparison : Comparison}

/-- An error about a version, told of the version behind a toolchain name. -/
def GateError.behind (stem : String) : GateError → GateError
  | .unrecognizedVersion version => .unrecognizedVersion (stem ++ version)
  | error => error

theorem compareBytes_append (stem left right : String) :
    compareBytes (stem ++ left) (stem ++ right) = compareBytes left right := by
  simp only [compareBytes, Text.Utf8.encode, String.toList_append, List.flatMap_append,
    Text.Utf8.compare_append_left]

/-- A name before a version is dropped whole, and the version is read as one without a name. -/
theorem components?_append (stem rest : String) :
    components? (stem ++ rest) stem = components? rest "" := by
  have dropped : dropStem stem.toList (stem ++ rest).toList = dropStem "".toList rest.toList := by
    rw [String.toList_append, WrittenVersion.dropStem_append]
    exact (WrittenVersion.dropStem_append [] rest.toList).symm
  simp only [components?, dropped]

/-- The order of two versions with the same toolchain name is that of the versions without it. -/
theorem order_append (comparison : Comparison) (stem left right : String) :
    comparison.order (stem ++ left) (stem ++ right) stem =
      (comparison.order left right "").mapError (.behind stem) := by
  cases comparison with
  | lexical =>
      rw [order_lexical, order_lexical, compareBytes_append]
      rfl
  | numeric =>
      rw [order_numeric, order_numeric, components?_append, components?_append]
      cases components? left "" with
      | none => rfl
      | some leftParts => cases components? right "" <;> rfl

namespace Gate

def named (stem : String) (comparison : Comparison) : Gate :=
  ({ toolchain := stem } : Gate).withComparison comparison

/-- The verdict of a gate on a version that begins with the name of its toolchain. -/
theorem check_of_third_word {source : Source} {output installed suffix : String}
    (asked : source.query.result = .ok output)
    (third : ThirdWord output.toList (stem ++ installed).toList) :
    ((named stem comparison).check suffix source).result =
      match comparison.order installed suffix "" with
      | .ok ordering =>
        .ok ((named stem comparison).reportOn (stem ++ installed) (stem ++ suffix) ordering)
      | .error error => .error (error.behind stem) := by
  have answered : (installedVersion source).result = .ok (stem ++ installed) :=
    installedVersion_of_third_word asked third
  have ordered := order_append comparison stem installed suffix
  rw [check_result, answered]
  change (named stem comparison).evaluate (stem ++ installed) (stem ++ suffix) = _
  cases found : comparison.order installed suffix "" with
  | error error =>
      rw [found] at ordered
      exact evaluate_of_error ordered
  | ok ordering =>
      rw [found] at ordered
      exact evaluate_of_order ordered

/-- Whether a report is contradicted by the numeric order has nothing to do with the name either. -/
theorem lexicalDisagrees_reportOn (stem left right : String) (ordering : Ordering) :
    ((named stem comparison).reportOn (stem ++ left) (stem ++ right) ordering).lexicalDisagrees =
      ((named "" comparison).reportOn left right ordering).lexicalDisagrees := by
  cases comparison with
  | numeric => rfl
  | lexical =>
      -- The second judgement reads the versions with their name, so the name cancels there too.
      rw [Report.lexicalDisagrees_of_lexical rfl, Report.lexicalDisagrees_of_lexical rfl]
      have ordered := order_append .numeric stem left right
      change (match Comparison.numeric.order (stem ++ left) (stem ++ right) stem with
        | .ok numeric => (numeric != Ordering.lt) != (ordering != Ordering.lt)
        | .error _ => false) = _
      rw [ordered]
      change _ = (match Comparison.numeric.order left right "" with
        | .ok numeric => (numeric != Ordering.lt) != (ordering != Ordering.lt)
        | .error _ => false)
      cases Comparison.numeric.order left right "" <;> rfl

end Gate

/-- Two gates that differ in the name of their toolchain judge alike a version that differs in that name
only. Both report, with the verdict that the versions have without a name, or both fail for the same
version behind its name; and either report is contradicted by the numeric order if the other one is. -/
theorem verdict_independent_of_name (comparison : Comparison) (name other installed suffix : String)
    (source otherSource : Source) (output otherOutput : String)
    (asked : source.query.result = .ok output)
    (otherAsked : otherSource.query.result = .ok otherOutput)
    (third : ThirdWord output.toList (name ++ installed).toList)
    (otherThird : ThirdWord otherOutput.toList (other ++ installed).toList) :
    let result := ((({ toolchain := name } : Gate).withComparison comparison).check suffix source).result
    let otherResult :=
      ((({ toolchain := other } : Gate).withComparison comparison).check suffix otherSource).result
    (∃ ordering report otherReport, comparison.order installed suffix "" = .ok ordering ∧
      result = .ok report ∧ otherResult = .ok otherReport ∧
      (report.satisfied = true ↔ ordering ≠ .lt) ∧
      (otherReport.satisfied = true ↔ ordering ≠ .lt) ∧
      report.lexicalDisagrees = otherReport.lexicalDisagrees) ∨
    ∃ version, (version = installed ∨ version = suffix) ∧
      comparison.order installed suffix "" = .error (.unrecognizedVersion version) ∧
      result = .error (.unrecognizedVersion (name ++ version)) ∧
      otherResult = .error (.unrecognizedVersion (other ++ version)) := by
  intro result otherResult
  have judged : result = _ := Gate.check_of_third_word asked third
  have otherJudged : otherResult = _ := Gate.check_of_third_word otherAsked otherThird
  rw [judged, otherJudged]
  cases ordered : comparison.order installed suffix "" with
  | ok ordering =>
      refine .inl ⟨ordering, _, _, rfl, rfl, rfl, Gate.reportOn_satisfied_iff,
        Gate.reportOn_satisfied_iff, ?_⟩
      rw [Gate.lexicalDisagrees_reportOn, Gate.lexicalDisagrees_reportOn]
  | error error =>
      obtain ⟨_, _, version, whose, rfl⟩ := order_error_cases ordered
      exact .inr ⟨version, whose, rfl, rfl, rfl⟩

/-- The version `10` against `9`, behind the name `v1.` and behind no name at all: numerically both pass,
although the first one reads like `1.10`. -/
theorem verdict_independent_of_name_digits :
    let result name output :=
      ((({ toolchain := name } : Gate).withComparison .numeric).check "9" (.fixed output)).result
    ∃ report other, result "v1." "tool version v1.10 linux\n" = .ok report ∧
      result "" "tool version 10\n" = .ok other ∧
      report.satisfied = true ∧ other.satisfied = true := by
  intro result
  have space : IsSpacing [' '] := by decide
  have third : ThirdWord ([] ++ ("tool".toList ++ ([' '] ++ ("version".toList ++ ([' '] ++
      ("v1.10".toList ++ " linux\n".toList)))))) ("v1." ++ "10").toList :=
    .intro (by decide) (by decide) (by decide) space (by decide) (by decide) space (by decide)
      (by decide)
  have otherThird : ThirdWord ([] ++ ("tool".toList ++ ([' '] ++ ("version".toList ++ ([' '] ++
      ("10".toList ++ "\n".toList)))))) ("" ++ "10").toList :=
    .intro (by decide) (by decide) (by decide) space (by decide) (by decide) space (by decide)
      (by decide)
  have ordered : Comparison.numeric.order "10" "9" "" = .ok .gt := by cbv
  rcases verdict_independent_of_name .numeric "v1." "" "10" "9"
      (.fixed "tool version v1.10 linux\n") (.fixed "tool version 10\n") _ _ rfl rfl third otherThird with
    ⟨ordering, report, other, same, reached, otherReached, verdict, otherVerdict, _⟩ |
      ⟨version, _, failed, _⟩
  · rw [ordered] at same
    cases same
    exact ⟨report, other, reached, otherReached, verdict.mpr (by decide), otherVerdict.mpr (by decide)⟩
  · rw [ordered] at failed
    cases failed

end VersionGate
