import VersionGate.Gate
import VersionGate.Proofs.Components.Written
import VersionGate.Proofs.Ordering
import VersionGate.Proofs.Source
import VersionGate.Proofs.VersionLine

namespace VersionGate

open Text

variable {gate : Gate} {suffix installed required version : String} {source : Source}
  {ordering : Ordering} {error : GateError} {report : Report}

namespace Gate

def reportOn (gate : Gate) (installed required : String) (ordering : Ordering) : Report where
  toolchain := gate.toolchain
  required
  installed
  comparison := gate.comparison
  satisfied := ordering != .lt

theorem reportOn_satisfied_iff :
    (gate.reportOn installed required ordering).satisfied = true ↔ ordering ≠ .lt := by
  simp [reportOn]

theorem evaluate_of_order
    (ordered : gate.comparison.order installed required gate.toolchain = .ok ordering) :
    gate.evaluate installed required = .ok (gate.reportOn installed required ordering) := by
  simp only [evaluate, ordered]
  rfl

theorem evaluate_of_error
    (failed : gate.comparison.order installed required gate.toolchain = .error error) :
    gate.evaluate installed required = .error error := by
  simp only [evaluate, failed]
  rfl

theorem check_of_error (failed : (installedVersion source).result = .error error) :
    gate.check suffix source = ⟨(installedVersion source).events, .error error⟩ := by
  simp only [check, Run.bind_of_error failed]

theorem check_of_order (asked : (installedVersion source).result = .ok version)
    (ordered : gate.comparison.order version (gate.requiredVersion suffix) gate.toolchain =
      .ok ordering) :
    let report := gate.reportOn version (gate.requiredVersion suffix) ordering
    gate.check suffix source =
      ⟨(installedVersion source).events ++ [.log (.evaluated report)], .ok report⟩ := by
  simp only [check, Run.bind_of_ok asked, evaluate_of_order ordered,
    Run.bind_of_ok (Run.result_ofExcept _), Run.events_ofExcept]
  rfl

theorem check_of_disorder (asked : (installedVersion source).result = .ok version)
    (failed : gate.comparison.order version (gate.requiredVersion suffix) gate.toolchain =
      .error error) :
    gate.check suffix source = ⟨(installedVersion source).events, .error error⟩ := by
  simp only [check, Run.bind_of_ok asked, evaluate_of_error failed,
    Run.bind_of_error (Run.result_ofExcept _), Run.events_ofExcept, List.append_nil]

/-- A check ends with the error of its source, with the error of its comparison, or with a report. -/
theorem check_cases (gate : Gate) (suffix : String) (source : Source) :
    (∃ error, (installedVersion source).result = .error error ∧
      (gate.check suffix source).result = .error error) ∨
    (∃ version error, (installedVersion source).result = .ok version ∧
      gate.comparison.order version (gate.requiredVersion suffix) gate.toolchain = .error error ∧
      (gate.check suffix source).result = .error error) ∨
    ∃ version ordering, (installedVersion source).result = .ok version ∧
      gate.comparison.order version (gate.requiredVersion suffix) gate.toolchain = .ok ordering ∧
      (gate.check suffix source).result =
        .ok (gate.reportOn version (gate.requiredVersion suffix) ordering) := by
  cases asked : (installedVersion source).result with
  | error error => exact .inl ⟨error, rfl, by rw [check_of_error asked]⟩
  | ok version =>
      cases ordered :
          gate.comparison.order version (gate.requiredVersion suffix) gate.toolchain with
      | error error =>
          refine .inr (.inl ⟨version, error, rfl, ordered, ?_⟩)
          rw [check_of_disorder asked ordered]
      | ok ordering =>
          refine .inr (.inr ⟨version, ordering, rfl, ordered, ?_⟩)
          rw [check_of_order asked ordered]

theorem check_result (gate : Gate) (suffix : String) (source : Source) :
    (gate.check suffix source).result = (installedVersion source).result.bind fun version =>
      gate.evaluate version (gate.requiredVersion suffix) := by
  unfold check
  rw [Run.result_bind]
  congr 1
  funext version
  rw [Run.result_bind, Run.result_ofExcept]
  cases gate.evaluate version (gate.requiredVersion suffix) <;> rfl

/-- All that a check adds to the trace of its query is the entry about its report. -/
theorem check_events (gate : Gate) (suffix : String) (source : Source) :
    (gate.check suffix source).events = (installedVersion source).events ++
      match (gate.check suffix source).result with
      | .ok report => [.log (.evaluated report)]
      | .error _ => [] := by
  cases asked : (installedVersion source).result with
  | error error => simp [check_of_error asked]
  | ok version =>
      cases ordered :
          gate.comparison.order version (gate.requiredVersion suffix) gate.toolchain with
      | error error => simp [check_of_disorder asked ordered]
      | ok ordering => simp [check_of_order asked ordered]

theorem launches_check (gate : Gate) (suffix : String) (source : Source) :
    launches (gate.check suffix source).events = launches (installedVersion source).events := by
  rw [check_events]
  cases (gate.check suffix source).result <;> simp

theorem calls_check (gate : Gate) (suffix : String) (source : Source) :
    calls (gate.check suffix source).events = calls (installedVersion source).events := by
  rw [check_events]
  cases (gate.check suffix source).result <;> simp

theorem check_eq_ok_iff :
    (gate.check suffix source).result = .ok report ↔
      ∃ version ordering, (installedVersion source).result = .ok version ∧
        gate.comparison.order version (gate.requiredVersion suffix) gate.toolchain = .ok ordering ∧
        report = gate.reportOn version (gate.requiredVersion suffix) ordering := by
  constructor
  · intro reached
    rcases gate.check_cases suffix source with
      ⟨error, _, failed⟩ | ⟨version, error, _, _, failed⟩ | ⟨version, ordering, asked, ordered, found⟩
    · rw [failed] at reached
      cases reached
    · rw [failed] at reached
      cases reached
    · rw [found] at reached
      cases reached
      exact ⟨version, ordering, asked, ordered, rfl⟩
  · rintro ⟨version, ordering, asked, ordered, rfl⟩
    rw [check_of_order asked ordered]

/-- A version that is ordered no lower than the one reported keeps a satisfied gate satisfied. -/
theorem check_satisfied_of_newer {other : Source}
    (reached : (gate.check suffix source).result = .ok report) (satisfied : report.satisfied = true)
    (asked : (installedVersion other).result = .ok version)
    (ordered : gate.comparison.order version report.installed gate.toolchain = .ok ordering)
    (newer : ordering ≠ .lt) :
    ∃ later, (gate.check suffix other).result = .ok later ∧ later.satisfied = true := by
  obtain ⟨old, verdict, _, oldOrdered, rfl⟩ := check_eq_ok_iff.mp reached
  have atLeast := reportOn_satisfied_iff.mp satisfied
  have order : TotalPreorder (gate.comparison.order · · gate.toolchain) :=
    order_totalPreorder gate.comparison
  -- The laws speak of what is not greater, so both orders are taken the other way round.
  have oldReversed := (order.reversed _ _ _).mp oldOrdered
  have newReversed := (order.reversed _ _ _).mp ordered
  obtain ⟨third, composed, notGreater, _⟩ := order.transitive _ _ _ _ _ oldReversed newReversed
    (by simpa using atLeast) (by simpa using newer)
  have newOrdered := (order.reversed _ _ _).mp composed
  refine ⟨_, check_eq_ok_iff.mpr ⟨version, third.swap, asked, newOrdered, rfl⟩, ?_⟩
  exact reportOn_satisfied_iff.mpr (by simpa using notGreater)

end Gate

/-- Each comparison is a total preorder on the strings that it accepts, and a gate never turns down a
version that is no lower than one it has accepted. The lexical comparison accepts all strings and
takes no two for equal; the numeric one fails exactly for want of components, and says whose. -/
theorem comparison_total_preorder (toolchain : String) :
    (∀ comparison : Comparison, TotalPreorder (comparison.order · · toolchain)) ∧
    (∀ left right, ∃ ordering, Comparison.lexical.order left right toolchain = .ok ordering ∧
      (ordering = .eq ↔ left = right)) ∧
    (∀ left right error, Comparison.numeric.order left right toolchain = .error error ↔
      components? left toolchain = none ∧ error = .unrecognizedVersion left ∨
      components? left toolchain ≠ none ∧ components? right toolchain = none ∧
        error = .unrecognizedVersion right) ∧
    ∀ (gate : Gate) (suffix : String) (source other : Source) (report : Report) (version : String)
      (ordering : Ordering), (gate.check suffix source).result = .ok report →
      report.satisfied = true → (installedVersion other).result = .ok version →
      gate.comparison.order version report.installed gate.toolchain = .ok ordering →
      ordering ≠ .lt →
      ∃ later, (gate.check suffix other).result = .ok later ∧ later.satisfied = true :=
  ⟨fun comparison => order_totalPreorder comparison,
    fun left right => ⟨_, order_lexical left right, compareBytes_eq_eq_iff⟩,
    fun _ _ _ => order_numeric_eq_error_iff,
    fun _ _ _ _ _ _ _ reached satisfied asked ordered newer =>
      Gate.check_satisfied_of_newer reached satisfied asked ordered newer⟩

/-- Numerically `go1.10.0` is above `go1.9`, through `go1.10`, and a gate that takes `go1.9` takes it
too. -/
theorem comparison_total_preorder_go :
    (∃ third, Comparison.numeric.order "go1.9" "go1.10.0" "go" = .ok third ∧ third = .lt) ∧
      ∃ later, (({} : Gate).withComparison .numeric |>.check "1.9"
        (.fixed "go version go1.10.0\n")).result = .ok later ∧ later.satisfied = true := by
  obtain ⟨preorder, _, _, kept⟩ := comparison_total_preorder "go"
  constructor
  · obtain ⟨third, compared, _, less⟩ := (preorder .numeric).transitive "go1.9" "go1.10" "go1.10.0"
      .lt .eq (by cbv) (by cbv) (by decide) (by decide)
    exact ⟨third, compared, less (.inl rfl)⟩
  · exact kept _ "1.9" (.fixed "go version go1.9\n") _ ⟨"go", "go1.9", "go1.9", .numeric, true⟩
      "go1.10.0" .gt (by cbv) rfl rfl (by cbv) (by decide)

theorem installedVersion_of_third_word {output : String}
    (asked : source.query.result = .ok output) (third : ThirdWord output.toList version.toList) :
    (installedVersion source).result = .ok version := by
  rw [installedVersion_of_output asked, third.reportedVersion_eq]
  rfl

/-- The numeric gate on versions as they are written: it always comes to a report, and the verdict is
the order of the two component sequences, each going on with zeros. The installed version may lack
the toolchain name if no version could begin as that name does. -/
theorem numeric_check_of_written (toolchain : String) (installed required : WrittenVersion)
    (word : String) (written : word = toolchain ++ installed.text ∨
      word = installed.text ∧ ¬ BeginsVersion toolchain.toList)
    (source : Source) (output : String) (asked : source.query.result = .ok output)
    (third : ThirdWord output.toList word.toList) :
    ∃ report, ((({ toolchain } : Gate).withComparison .numeric).check required.text source).result =
        .ok report ∧
      (report.satisfied = true ↔
        Agrees installed.values required.values ∨ Precedes required.values installed.values) := by
  have installedRead : components? word toolchain = some installed.values := by
    rcases written with rfl | ⟨rfl, foreign⟩
    · exact installed.components?_append toolchain
    · exact installed.components?_of_foreign foreign
  have requiredRead := required.components?_append toolchain
  have ordered : Comparison.numeric.order word (toolchain ++ required.text) toolchain =
      .ok (compareComponents installed.values required.values) := by
    rw [order_numeric, installedRead, requiredRead]
  have reported := installedVersion_of_third_word asked third
  refine ⟨_, Gate.check_eq_ok_iff.mpr ⟨word, _, reported, ordered, rfl⟩, ?_⟩
  rw [Gate.reportOn_satisfied_iff, compareComponents_ne_lt_iff]

/-- The version `go1.021rc1`, reported without its name on an indented line, against `v1.20`. -/
theorem numeric_check_of_written_go :
    ∃ installed required : WrittenVersion,
      installed.text = "1.021rc1" ∧ required.text = "v1.20" ∧
        ∃ report, ((({ toolchain := "go" } : Gate).withComparison .numeric).check required.text
            (.fixed " go version 1.021rc1 linux\n")).result = .ok report ∧
          report.satisfied = true := by
  let one : Numeral := ⟨['1'], by decide, by simp, by decide⟩
  let installed : WrittenVersion :=
    ⟨false, [one, ⟨['0', '2', '1'], by decide, by simp, by decide⟩], by decide,
      ['r', 'c', '1'], ⟨by rintro c ⟨⟩; rfl, by simp⟩⟩
  let required : WrittenVersion :=
    ⟨true, [one, ⟨['2', '0'], by decide, by simp, by decide⟩], by decide, [],
      ⟨by simp, by simp⟩⟩
  have blank : IsSpacing [' '] := by decide
  have third : ThirdWord ([' '] ++ ("go".toList ++ ([' '] ++ ("version".toList ++ ([' '] ++
      ("1.021rc1".toList ++ " linux\n".toList)))))) installed.text.toList :=
    .intro blank (by decide) (by decide) blank (by decide) (by decide) blank (by decide) (by decide)
  have foreign : ¬ BeginsVersion "go".toList := by
    rintro ⟨c, rest, ascii, same | same⟩
    · cases same
      exact absurd ascii (by decide)
    · cases same
  obtain ⟨report, reached, verdict⟩ := numeric_check_of_written "go" installed required
    installed.text (.inr ⟨rfl, foreign⟩) (.fixed " go version 1.021rc1 linux\n") _ rfl third
  exact ⟨installed, required, rfl, rfl, report, reached,
    verdict.mpr (.inr ⟨1, by decide, by decide⟩)⟩

end VersionGate
