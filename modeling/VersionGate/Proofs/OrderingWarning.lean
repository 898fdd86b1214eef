import VersionGate.Proofs.Narration

/-!
The warning about lexical ordering, as a relation between two runs.

A lexical check judges its report a second time, numerically, and warns if the verdicts differ. That second
judgement is shown to be the verdict of the numeric check with the same options, errors included.
-/

namespace VersionGate

variable {gate : Gate} {installed required : String} {report : Report}

def warnings (events : List Event) : List Ui.Call :=
  (calls events).filter (·.channel = .warning)

theorem Report.lexicalDisagrees_of_numeric (numeric : report.comparison = .numeric) :
    report.lexicalDisagrees = false := by
  simp [lexicalDisagrees, numeric]

theorem Report.lexicalDisagrees_of_lexical (lexical : report.comparison = .lexical) :
    report.lexicalDisagrees =
      match Comparison.numeric.order report.installed report.required report.toolchain with
      | .ok ordering => (ordering != .lt) != report.satisfied
      | .error _ => false := by
  obtain ⟨toolchain, required, installed, comparison, satisfied⟩ := report
  cases lexical
  rfl

theorem Gate.evaluate_lexical (gate : Gate) (installed required : String) :
    (gate.withComparison .lexical).evaluate installed required =
      .ok ((gate.withComparison .lexical).reportOn installed required
        (compareBytes installed required)) :=
  evaluate_of_order (order_lexical installed required)

/-- The second judgement of a lexical report is that of the numeric gate on the same versions. -/
theorem Gate.lexicalDisagrees_iff
    (judged : (gate.withComparison .lexical).evaluate installed required = .ok report) :
    report.lexicalDisagrees = true ↔
      ∃ other, (gate.withComparison .numeric).evaluate installed required = .ok other ∧
        report.satisfied ≠ other.satisfied := by
  rw [evaluate_lexical] at judged
  cases judged
  rw [Report.lexicalDisagrees_of_lexical rfl]
  -- The report has the versions and the name that the numeric gate is given, so both orders are one.
  change (match Comparison.numeric.order installed required gate.toolchain with
    | .ok ordering => (ordering != .lt) != (compareBytes installed required != .lt)
    | .error _ => false) = true ↔ _
  cases ordered : Comparison.numeric.order installed required gate.toolchain with
  | error error =>
      have failed : (gate.withComparison .numeric).evaluate installed required = .error error :=
        evaluate_of_error ordered
      rw [failed]
      simp
  | ok ordering =>
      have reached : (gate.withComparison .numeric).evaluate installed required =
          .ok ((gate.withComparison .numeric).reportOn installed required ordering) :=
        evaluate_of_order ordered
      rw [reached]
      constructor
      · intro differ
        exact ⟨_, rfl, (bne_iff_ne.mp differ).symm⟩
      · rintro ⟨other, same, differ⟩
        cases same
        exact bne_iff_ne.mpr differ.symm

theorem Report.outcome_exitCode_ne_iff {other : Report} :
    report.outcome.exitCode ≠ other.outcome.exitCode ↔ report.satisfied ≠ other.satisfied := by
  cases first : report.satisfied <;> cases second : other.satisfied <;>
    simp [outcome, first, second, Outcome.passed, Outcome.failed]

theorem Report.outcomes_differ_iff {first second : Except GateError Report} :
    (∃ outcome other, first.map Report.outcome = .ok outcome ∧
      second.map Report.outcome = .ok other ∧ outcome.exitCode ≠ other.exitCode) ↔
    ∃ report other, first = .ok report ∧ second = .ok other ∧
      report.satisfied ≠ other.satisfied := by
  cases first with
  | error error => simp [Except.map]
  | ok report =>
      cases second with
      | error error => simp [Except.map]
      | ok other => simpa [Except.map] using outcome_exitCode_ne_iff

namespace Cli.CheckOptions

variable {options : CheckOptions} {host : Host} {mode : Ui.Mode} {given : Option Source}
  {suffix : String}

/-- What the source of a check answers, which is asked without regard to the comparison. -/
def answer (options : CheckOptions) (host : Host) (given : Option Source) :
    Except GateError String :=
  (options.asked host given).bind fun source => (installedVersion source).result

theorem finding_eq (options : CheckOptions) (host : Host) (given : Option Source)
    (suffix : String) :
    options.finding host given suffix = (options.answer host given).bind fun version =>
      options.gate.evaluate version (options.toolchain ++ suffix) := by
  unfold finding answer
  cases options.asked host given with
  | error error => rfl
  | ok source => exact options.gate.check_result suffix source

/-- The warnings of a check are those of its finding, however it is presented. -/
theorem warnings_check (options : CheckOptions) (wanted : options.minVersion = some suffix)
    (silent : ∀ source, given = some source → source.Silent) :
    warnings (options.check host mode given).events =
      match options.finding host given suffix with
      | .ok report => warningCalls report
      | .error _ => [] := by
  have none : (options.openingCalls host mode given suffix).filter (·.channel = .warning) = [] :=
    filter_openingCalls (· = .warning) rfl rfl
  unfold warnings
  rw [calls_check wanted silent, List.filter_append, none, List.nil_append]
  cases options.finding host given suffix with
  | error error => rfl
  | ok report =>
      have last : (options.verdictCall report).channel ≠ .warning := by
        unfold verdictCall
        split
        · simp
        · split <;> simp
      rw [endingCalls_ok, List.filter_append]
      cases disagrees : report.lexicalDisagrees with
      | true => simp [warningCalls, disagrees, last]
      | false => simp [warningCalls, disagrees, last]

theorem warnings_ne_nil_iff (options : CheckOptions) (wanted : options.minVersion = some suffix)
    (silent : ∀ source, given = some source → source.Silent) :
    warnings (options.check host mode given).events ≠ [] ↔
      ∃ report, options.finding host given suffix = .ok report ∧
        report.lexicalDisagrees = true := by
  rw [warnings_check options wanted silent]
  cases options.finding host given suffix with
  | error error => simp
  | ok report => simp [warningCalls]

/-- The two findings of one source under either comparison: both ask the same, and the lexical one warns if
there is a numeric one with the other verdict. -/
theorem finding_disagrees_iff (options : CheckOptions) (host : Host) (given : Option Source)
    (suffix : String) :
    (∃ report, { options with compare := .lexical }.finding host given suffix = .ok report ∧
      report.lexicalDisagrees = true) ↔
    ∃ report other, { options with compare := .lexical }.finding host given suffix = .ok report ∧
      { options with compare := .numeric }.finding host given suffix = .ok other ∧
      report.satisfied ≠ other.satisfied := by
  have finding (comparison : Comparison) :
      { options with compare := comparison }.finding host given suffix =
        (options.answer host given).bind fun version =>
          (options.gate.withComparison comparison).evaluate version (options.toolchain ++ suffix) :=
    finding_eq _ host given suffix
  rw [finding, finding]
  cases options.answer host given with
  | error error => simp [Except.bind]
  | ok version =>
      simp only [Except.bind]
      constructor
      · rintro ⟨report, judged, disagrees⟩
        obtain ⟨other, reached, differ⟩ := (Gate.lexicalDisagrees_iff judged).mp disagrees
        exact ⟨report, other, judged, reached, differ⟩
      · rintro ⟨report, other, judged, reached, differ⟩
        exact ⟨report, judged, (Gate.lexicalDisagrees_iff judged).mpr ⟨other, reached, differ⟩⟩

end Cli.CheckOptions

open Cli in
/-- The warning about lexical ordering is exact. A lexical check of a required version warns, and then
once, exactly if the numeric check with the same options ends with another exit code; the numeric check
never warns; and neither the form nor the amount of output has a part in it. -/
theorem ordering_warning_exact (options : CheckOptions) (host : Host) (mode : Ui.Mode)
    (given : Option Source) (suffix : String) (wanted : options.minVersion = some suffix)
    (silent : ∀ source, given = some source → source.Silent) :
    let lexical := { options with compare := .lexical }.check host mode given
    let numeric := { options with compare := .numeric }.check host mode given
    (warnings lexical.events ≠ [] ↔ ∃ outcome other, lexical.result = .ok outcome ∧
      numeric.result = .ok other ∧ outcome.exitCode ≠ other.exitCode) ∧
    (warnings lexical.events).length ≤ 1 ∧
    warnings numeric.events = [] ∧
    ∀ (comparison : Comparison) (json : Bool) (other : Ui.Mode),
      warnings ({ options with compare := comparison, json }.check host other given).events =
        warnings ({ options with compare := comparison }.check host mode given).events := by
  intro lexical numeric
  have warned (comparison : Comparison) (json : Bool) (other : Ui.Mode) :
      warnings ({ options with compare := comparison, json }.check host other given).events =
        match { options with compare := comparison }.finding host given suffix with
        | .ok report => CheckOptions.warningCalls report
        | .error _ => [] :=
    CheckOptions.warnings_check { options with compare := comparison, json } wanted silent
  have lexicalResult : lexical.result =
      ({ options with compare := .lexical }.finding host given suffix).map Report.outcome :=
    CheckOptions.check_result wanted
  have numericResult : numeric.result =
      ({ options with compare := .numeric }.finding host given suffix).map Report.outcome :=
    CheckOptions.check_result wanted
  refine ⟨?_, ?_, ?_, fun comparison json other => ?_⟩
  · have lexicalWarns : warnings lexical.events ≠ [] ↔ _ :=
      CheckOptions.warnings_ne_nil_iff { options with compare := .lexical } wanted silent
    rw [lexicalWarns, CheckOptions.finding_disagrees_iff, lexicalResult, numericResult,
      Report.outcomes_differ_iff]
  · have said : warnings lexical.events = _ := warned .lexical options.json mode
    rw [said]
    cases { options with compare := .lexical }.finding host given suffix with
    | error error => simp
    | ok report =>
        rcases CheckOptions.warningCalls_atMostOne report with none | ⟨text, one⟩
        · simp [none]
        · simp [one]
  · by_contra warned
    obtain ⟨report, found, disagrees⟩ :=
      (CheckOptions.warnings_ne_nil_iff { options with compare := .numeric } wanted silent).mp warned
    have numeric := (CheckOptions.Found.of_finding found).comparison
    rw [Report.lexicalDisagrees_of_numeric numeric] at disagrees
    cases disagrees
  · exact (warned comparison json other).trans (warned comparison options.json mode).symm

open Cli in
/-- Version `10` against `9`: the lexical check fails and warns, with JSON output in the quiet mode too; the
numeric check passes without a warning. -/
theorem ordering_warning_exact_go :
    let run (comparison : Comparison) (json : Bool) (mode : Ui.Mode) :=
      { minVersion := some "9", compare := comparison, json : CheckOptions }.check
        (fun _ => .error (.system 2)) mode (some (.fixed "go version go10 linux/amd64\n"))
    warnings (run .lexical false .normal).events ≠ [] ∧
      warnings (run .lexical true .quiet).events ≠ [] ∧
      warnings (run .numeric false .normal).events = [] := by
  intro run
  have silent (source : Source)
      (same : some (.fixed "go version go10 linux/amd64\n") = some source) : source.Silent := by
    cases same
    exact Source.silent_fixed _
  obtain ⟨warns, _, quiet, neutral⟩ := ordering_warning_exact { minVersion := some "9" }
    (fun _ => .error (.system 2)) .normal (some (.fixed "go version go10 linux/amd64\n")) "9" rfl silent
  have low : (run .lexical false .normal).result = .ok (.failed 1) := by cbv
  have high : (run .numeric false .normal).result = .ok .passed := by cbv
  have warned : warnings (run .lexical false .normal).events ≠ [] :=
    warns.mpr ⟨.failed 1, .passed, low, high, by decide⟩
  refine ⟨warned, ?_, quiet⟩
  rwa [show warnings (run .lexical true .quiet).events = _ from neutral .lexical true .quiet]

end VersionGate
