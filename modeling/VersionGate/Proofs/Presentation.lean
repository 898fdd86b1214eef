import VersionGate.Proofs.Cli.Arrangement
import VersionGate.Proofs.ExitCode
import VersionGate.Proofs.Narration
import VersionGate.Proofs.Screen

/-!
How a run is presented has no part in what it does.

The switches for the amount of output, for color and for the log leave the request of an invocation as it
is. The verbose mode adds one detail to what is said, a mode keeps some channels off standard output, and
log lines go to standard error, so that the runs of one request can be compared call by call.
-/

namespace VersionGate

namespace Cli.Invocation

variable {invocation other : Invocation} {host : Host} {mode : Ui.Mode} {suffix : String}

/-- The mode is the one that the switches for the amount of output ask for; the quiet switch wins. -/
structure ModeOfSwitches (mode : Ui.Mode) (wantsDetail wantsQuiet : Prop) : Prop where
  quiet : mode = .quiet ↔ wantsQuiet
  normal : mode = .normal ↔ ¬ wantsQuiet ∧ ¬ wantsDetail
  verbose : mode = .verbose ↔ ¬ wantsQuiet ∧ wantsDetail

theorem modeOfSwitches (invocation : Invocation) :
    ModeOfSwitches invocation.mode (invocation.verbose = true) (invocation.quiet = true) := by
  unfold mode Ui.Mode.ofFlags
  cases quiet : invocation.quiet with
  | true => constructor <;> simp
  | false => cases verbose : invocation.verbose <;> constructor <;> simp

/-- Wherever the words for the two switches stand on a command line, and in whatever form, they alone choose
the mode. -/
theorem mode_of_writesAll {request : Request} {words : List String} {environment : Environment}
    (written : WritesAll request words) (bare : Unconfigured environment) :
    ∃ invocation, parse environment words = .ok invocation ∧
      ModeOfSwitches invocation.mode (.verbose ∈ request.switches) (.quiet ∈ request.switches) := by
  refine ⟨request.toDraft.invocation, parse_of_unconfigured bare written.read_eq, ?_⟩
  simpa [Request.toDraft, Draft.invocation] using request.toDraft.invocation.modeOfSwitches

/-- Two invocations that ask for the same. They may differ in how much is said, in color and in what is
logged. -/
structure SameRequest (invocation other : Invocation) : Prop where
  check : invocation.check = other.check
  completions : invocation.completions = other.completions

theorem SameRequest.run_eq (same : SameRequest invocation other) (host : Host) (mode : Ui.Mode) :
    invocation.run host mode = other.run host mode := by
  simp only [run, dispatch, same.check, same.completions]

def trace (invocation : Invocation) (host : Host) : List Event :=
  .log (.starting invocation.text) :: (invocation.run host invocation.mode).1

def closingCalls (invocation : Invocation) : Except GateError Report → List Ui.Call
  | .ok report => CheckOptions.warningCalls report ++ [invocation.check.verdictCall report]
  | .error error => [⟨.error, error.message⟩]

theorem dispatch_result (plain : invocation.completions = none)
    (wanted : invocation.check.minVersion = some suffix) :
    (invocation.dispatch host mode).result =
      (invocation.check.finding host none suffix).map Report.outcome := by
  rw [dispatch_of_check plain, CheckOptions.check_result wanted]

theorem calls_dispatch (plain : invocation.completions = none)
    (wanted : invocation.check.minVersion = some suffix) :
    calls (invocation.dispatch host mode).events =
      invocation.check.openingCalls host mode none suffix ++
        invocation.check.endingCalls (invocation.check.finding host none suffix) := by
  rw [dispatch_of_check plain, CheckOptions.calls_check wanted (by simp)]

theorem calls_run (plain : invocation.completions = none)
    (wanted : invocation.check.minVersion = some suffix) :
    calls (invocation.run host mode).1 =
      invocation.check.openingCalls host mode none suffix ++
        invocation.closingCalls (invocation.check.finding host none suffix) := by
  have said : calls (invocation.dispatch host mode).events = _ := calls_dispatch plain wanted
  have result : (invocation.dispatch host mode).result = _ := dispatch_result plain wanted
  cases found : invocation.check.finding host none suffix with
  | error error =>
      rw [found] at said result
      rw [run_of_error result, calls_append, said]
      simp [closingCalls]
  | ok report =>
      rw [found] at said result
      rw [run_of_outcome result, said]
      rfl

/-- The exit code of a run against a required version, by what the check finds. -/
theorem code_run (plain : invocation.completions = none)
    (wanted : invocation.check.minVersion = some suffix) :
    (invocation.run host mode).2 =
      match invocation.check.finding host none suffix with
      | .ok report => if report.satisfied then 0 else 1
      | .error _ => 3 := by
  have result : (invocation.dispatch host mode).result = _ := dispatch_result plain wanted
  cases found : invocation.check.finding host none suffix with
  | error error =>
      rw [found] at result
      rw [run_of_error result]
      exact (fromCheck_of_dispatch_error result).exitCode_eq
  | ok report =>
      rw [found] at result
      rw [run_of_outcome result]
      exact (CheckOptions.Found.of_finding found).exitCode

/-- Only a check of a required version looks at the mode at all. -/
theorem run_mode_cases (invocation : Invocation) (host : Host) (mode otherMode : Ui.Mode) :
    invocation.run host mode = invocation.run host otherMode ∨
      ∃ suffix, invocation.completions = none ∧ invocation.check.minVersion = some suffix := by
  cases chosen : invocation.completions with
  | some shell => exact .inl (by rw [run_of_completions chosen, run_of_completions chosen])
  | none =>
      cases wanted : invocation.check.minVersion with
      | none =>
          exact .inl (by rw [run_of_no_version chosen wanted, run_of_no_version chosen wanted])
      | some suffix => exact .inr ⟨suffix, rfl, rfl⟩

/-- What is said about a request is the same in every mode, but for the detail. -/
theorem filter_calls_run_eq (invocation : Invocation) (shown : Ui.Channel → Bool)
    (noDetail : shown .detail = false) (host : Host) (mode otherMode : Ui.Mode) :
    (calls (invocation.run host mode).1).filter (shown ·.channel) =
      (calls (invocation.run host otherMode).1).filter (shown ·.channel) := by
  rcases invocation.run_mode_cases host mode otherMode with same | ⟨suffix, plain, wanted⟩
  · rw [same]
  · rw [calls_run plain wanted, calls_run plain wanted, List.filter_append, List.filter_append]
    -- The modes differ in the opening only, and there by the detail.
    congr 1
    unfold CheckOptions.openingCalls
    split
    · rfl
    · rw [List.filter_cons, List.filter_cons, CheckOptions.filter_detailCalls shown noDetail,
        CheckOptions.filter_detailCalls shown noDetail]

theorem code_run_mode (invocation : Invocation) (host : Host) (mode otherMode : Ui.Mode) :
    (invocation.run host mode).2 = (invocation.run host otherMode).2 := by
  rcases invocation.run_mode_cases host mode otherMode with same | ⟨suffix, plain, wanted⟩
  · rw [same]
  · rw [code_run plain wanted, code_run plain wanted]

theorem launchCount_run_mode (invocation : Invocation) (host : Host) (mode otherMode : Ui.Mode) :
    launchCount (invocation.run host mode).1 = launchCount (invocation.run host otherMode).1 := by
  rw [launchCount_run, launchCount_run]
  cases chosen : invocation.completions with
  | some shell => rw [dispatch_of_completions chosen, dispatch_of_completions chosen]
  | none =>
      rw [dispatch_of_check chosen, dispatch_of_check chosen, CheckOptions.launchCount_check,
        CheckOptions.launchCount_check]

def lines (invocation : Invocation) (host : Host) : List String :=
  ((calls (invocation.run host invocation.mode).1).filter
    (invocation.mode.prints ·.channel)).map (·.line)

theorem printed_trace (invocation : Invocation) (host : Host) (environment : Environment)
    (clock : Log.Clock) :
    (Screen.ofPipes invocation environment clock).printed (invocation.trace host) =
      invocation.lines host :=
  Screen.printed_of_plain (Screen.ofPipes_plain ..) _

theorem SameRequest.complaints_trace (same : SameRequest invocation other) (host : Host)
    (environment otherEnvironment : Environment) (clock otherClock : Log.Clock) :
    (Screen.ofPipes invocation environment clock).complaints (invocation.trace host) =
      (Screen.ofPipes other otherEnvironment otherClock).complaints (other.trace host) := by
  rw [Screen.complaints_of_plain (Screen.ofPipes_plain ..),
    Screen.complaints_of_plain (Screen.ofPipes_plain ..)]
  change ((calls (invocation.run host invocation.mode).1).filter _).map _ =
    ((calls (other.run host other.mode).1).filter _).map _
  rw [same.run_eq]
  exact congrArg _ (other.filter_calls_run_eq Ui.Channel.complains rfl host _ _)

/-- A mode that shows no details prints a part of what a mode prints that shows as much and more. -/
theorem lines_sublist (same : SameRequest invocation other)
    (noDetail : invocation.mode.prints .detail = false)
    (less : ∀ channel, invocation.mode.prints channel = true → other.mode.prints channel = true) :
    (invocation.lines host).Sublist (other.lines host) := by
  unfold lines
  rw [invocation.filter_calls_run_eq _ noDetail host _ other.mode, same.run_eq]
  have kept : ((calls (other.run host other.mode).1).filter
      (invocation.mode.prints ·.channel)).Sublist _ :=
    List.monotone_filter_right _ fun call shown => less call.channel shown
  exact kept.map _

/-- What is printed grows from the quiet to the normal and to the verbose mode. -/
theorem lines_sublist_of_modes (same : SameRequest invocation other)
    (modes : invocation.mode = .quiet ∧ other.mode = .normal ∨
      invocation.mode = .normal ∧ other.mode = .verbose) :
    (invocation.lines host).Sublist (other.lines host) := by
  rcases modes with ⟨quiet, normal⟩ | ⟨normal, verbose⟩
  · refine lines_sublist same (by rw [quiet]; rfl) fun channel => ?_
    rw [quiet, normal]
    cases channel <;> decide
  · refine lines_sublist same (by rw [normal]; rfl) fun channel => ?_
    rw [normal, verbose]
    cases channel <;> decide

theorem lines_of_no_version (plain : invocation.completions = none)
    (missing : invocation.check.minVersion = none) :
    invocation.lines host = [GateError.missingArgument.message ++ "\n"] := by
  unfold lines
  rw [run_of_no_version plain missing]
  simp [Ui.Mode.prints, Ui.Call.line]

/-- With JSON output nothing is printed but the report, in any mode. -/
theorem lines_of_json (plain : invocation.completions = none)
    (wanted : invocation.check.minVersion = some suffix) (json : invocation.check.json = true) :
    invocation.lines host =
      match invocation.check.finding host none suffix with
      | .ok report => [report.json ++ "\n"]
      | .error _ => [] := by
  unfold lines
  rw [calls_run plain wanted, CheckOptions.openingCalls, if_pos json, List.nil_append]
  cases invocation.check.finding host none suffix with
  | error error => rfl
  | ok report =>
      rw [closingCalls, CheckOptions.verdictCall_of_json json, List.filter_append,
        CheckOptions.filter_warningCalls _ rfl]
      simp [Ui.Mode.prints, Ui.Call.line]

/-- With JSON output either the check is left undecided and nothing is printed, or its report is. -/
theorem lines_json_cases (plain : invocation.completions = none)
    (wanted : invocation.check.minVersion = some suffix) (json : invocation.check.json = true) :
    (invocation.run host mode).2 = 3 ∧ invocation.lines host = [] ∨
      ((invocation.run host mode).2 = 0 ∨ (invocation.run host mode).2 = 1) ∧ ∃ report,
        invocation.check.finding host none suffix = .ok report ∧
        Report.ofJson? report.json = some report ∧
        invocation.lines host = [report.json ++ "\n"] := by
  rw [lines_of_json plain wanted json, code_run plain wanted]
  cases invocation.check.finding host none suffix with
  | error error => exact .inl ⟨rfl, rfl⟩
  | ok report =>
      refine .inr ⟨?_, report, rfl, report.ofJson?_json, rfl⟩
      cases satisfied : report.satisfied with
      | true => simp [satisfied]
      | false => simp [satisfied]

/-- In the quiet mode nothing is printed but the failure of a version that is too low. -/
theorem lines_of_quiet (plain : invocation.completions = none)
    (wanted : invocation.check.minVersion = some suffix) (text : invocation.check.json = false)
    (quiet : invocation.mode = .quiet) :
    invocation.lines host =
      match invocation.check.finding host none suffix with
      | .ok report =>
        if report.satisfied then []
        else ["real " ++ report.toolchain ++ " version: " ++ report.installed ++ "\n"]
      | .error _ => [] := by
  unfold lines
  rw [quiet, calls_run plain wanted, List.filter_append, CheckOptions.filter_openingCalls _ rfl rfl,
    List.nil_append]
  cases invocation.check.finding host none suffix with
  | error error => rfl
  | ok report =>
      rw [closingCalls, List.filter_append, CheckOptions.filter_warningCalls _ rfl,
        CheckOptions.verdictCall, if_neg (by simp [text])]
      cases satisfied : report.satisfied with
      | true => simp [satisfied, Ui.Mode.prints]
      | false => simp [satisfied, Ui.Mode.prints, Ui.Call.line]

/-- A quiet run prints nothing exactly if its check passes or is left undecided. -/
theorem join_lines_of_quiet_eq_empty_iff (plain : invocation.completions = none)
    (text : invocation.check.json = false) (quiet : invocation.mode = .quiet) :
    String.join (invocation.lines host) = "" ↔
      (invocation.run host mode).2 = 0 ∨ (invocation.run host mode).2 = 3 := by
  cases wanted : invocation.check.minVersion with
  | none =>
      rw [lines_of_no_version plain wanted, run_of_no_version plain wanted]
      simp
  | some suffix =>
      rw [lines_of_quiet plain wanted text quiet, code_run plain wanted]
      cases invocation.check.finding host none suffix with
      | error error => simp
      | ok report =>
          cases satisfied : report.satisfied with
          | true => simp [satisfied]
          | false => simp [satisfied]

end Cli.Invocation

open Cli

theorem runProcess_of_invocation {host : Host} {environment : Environment} {clock : Log.Clock}
    {commandLine : List String} {invocation : Invocation}
    (parsed : Invocation.parse environment commandLine.tail = .ok invocation) :
    runProcess host environment clock commandLine =
      { code := (invocation.run host invocation.mode).2
        streams := (Screen.ofPipes invocation environment clock).writeAll
          (invocation.trace host) } := by
  simp only [runProcess, parsed]
  rfl

/-- Off a terminal the presentation of a request has no part in what it does. Two invocations that ask for
the same, with any switches for output, color and log and in any environments, give one exit code, start as
many children and make the same complaints. What is printed grows from the quiet to the normal and to the
verbose mode; with JSON output it is the report of the check or nothing in all of them; and a quiet check
prints nothing exactly if it passes or is left undecided. Standard error holds the complaints among the
lines of the log, and standard output holds what is said and nothing of the log. The modes are those that
the two switches for the amount of output ask for. -/
theorem presentation_neutral (host : Host) (invocation other : Invocation)
    (same : invocation.SameRequest other) (environment otherEnvironment : Environment)
    (clock otherClock : Log.Clock) :
    let run := invocation.run host invocation.mode
    let otherRun := other.run host other.mode
    let trace := invocation.trace host
    let otherTrace := other.trace host
    let screen := Screen.ofPipes invocation environment clock
    let otherScreen := Screen.ofPipes other otherEnvironment otherClock
    Invocation.ModeOfSwitches invocation.mode (invocation.verbose = true) (invocation.quiet = true) ∧
    (run.2 = otherRun.2 ∧ launchCount trace = launchCount otherTrace ∧
      screen.complaints trace = otherScreen.complaints otherTrace) ∧
    (invocation.mode = .quiet ∧ other.mode = .normal ∨
        invocation.mode = .normal ∧ other.mode = .verbose →
      (screen.printed trace).Sublist (otherScreen.printed otherTrace)) ∧
    (∀ suffix, invocation.completions = none → invocation.check.minVersion = some suffix →
      invocation.check.json = true →
        screen.printed trace = otherScreen.printed otherTrace ∧
        (run.2 = 3 ∧ screen.printed trace = [] ∨
          (run.2 = 0 ∨ run.2 = 1) ∧ ∃ report,
            invocation.check.finding host none suffix = .ok report ∧
            Report.ofJson? report.json = some report ∧
            screen.printed trace = [report.json ++ "\n"])) ∧
    (invocation.completions = none → invocation.check.json = false → invocation.mode = .quiet →
      ((screen.writeAll trace).stdout = "" ↔ run.2 = 0 ∨ run.2 = 3)) ∧
    (screen.writeAll trace = ⟨String.join (screen.printed trace),
        String.join (screen.texts (·.stderr) trace)⟩ ∧
      (screen.complaints trace).Sublist (screen.texts (·.stderr) trace) ∧
      (screen.writeAll trace).stdout = (screen.terminal.writeAll (calls trace)).stdout) ∧
    ∀ commandLine, Invocation.parse environment commandLine.tail = .ok invocation →
      runProcess host environment clock commandLine = ⟨run.2, screen.writeAll trace⟩ := by
  intro run otherRun trace otherTrace screen otherScreen
  have printed : screen.printed trace = invocation.lines host :=
    invocation.printed_trace host environment clock
  have otherPrinted : otherScreen.printed otherTrace = other.lines host :=
    other.printed_trace host otherEnvironment otherClock
  refine ⟨invocation.modeOfSwitches, ⟨?_, ?_, same.complaints_trace host ..⟩, ?_, ?_, ?_,
    ⟨screen.writeAll_eq trace, screen.complaints_sublist trace,
      screen.stdout_writeAll_eq_terminal trace⟩,
    fun commandLine parsed => runProcess_of_invocation parsed⟩
  · rw [show run = _ from same.run_eq host invocation.mode]
    exact other.code_run_mode host _ _
  · change launchCount run.1 = launchCount otherRun.1
    rw [show run = _ from same.run_eq host invocation.mode]
    exact other.launchCount_run_mode host _ _
  · rw [printed, otherPrinted]
    exact Invocation.lines_sublist_of_modes same
  · intro suffix plain wanted json
    rw [printed, otherPrinted]
    refine ⟨?_, Invocation.lines_json_cases plain wanted json⟩
    rw [Invocation.lines_of_json plain wanted json, Invocation.lines_of_json
      (same.completions ▸ plain) (same.check ▸ wanted) (same.check ▸ json), same.check]
  · intro plain text quiet
    rw [screen.writeAll_eq, printed]
    exact Invocation.join_lines_of_quiet_eq_empty_iff plain text quiet

/-- Version `10` against `9`, in the quiet mode and in the normal one with the log at its fullest: both fail
with the same complaint, and the failure that the quiet run prints is printed by the other one too. -/
theorem presentation_neutral_go :
    let host : Host := fun _ =>
      .ok ⟨.exited 0, Text.Utf8.encode "go version go10 linux/amd64\n".toList, []⟩
    let quiet : Invocation := { check := { minVersion := some "9" }, quiet := true }
    let logged : Invocation :=
      { check := { minVersion := some "9" }, noColor := true, debug := true }
    let environment : Environment := fun name =>
      if name = "RUST_LOG" then some "trace" else none
    let screen invocation := Screen.ofPipes invocation environment ⟨"", "0"⟩
    (quiet.run host .quiet).2 = 1 ∧ (logged.run host .normal).2 = 1 ∧
      (screen quiet).complaints (quiet.trace host) =
        (screen logged).complaints (logged.trace host) ∧
      ((screen quiet).printed (quiet.trace host)).Sublist
        ((screen logged).printed (logged.trace host)) ∧
      ((screen quiet).writeAll (quiet.trace host)).stdout ≠ "" ∧
      (runProcess host environment ⟨"", "0"⟩ ["toolgate", "-q", "9"]).code = 1 := by
  intro host quiet logged environment screen
  obtain ⟨modes, ⟨code, _, complaints⟩, more, _, silent, _, process⟩ := presentation_neutral host quiet
    logged ⟨rfl, rfl⟩ environment environment ⟨"", "0"⟩ ⟨"", "0"⟩
  have reported : ({ minVersion := some "9" } : CheckOptions).Finds host "9" .lt :=
    ⟨"go10", ⟨⟨"go", ["version"]⟩, _, rfl, rfl, rfl⟩, rfl⟩
  have low : (quiet.run host .quiet).2 = 1 :=
    (Invocation.run_codeMeans rfl rfl).tooLow.mpr reported
  refine ⟨low, code.symm.trans low, complaints, more (.inl ⟨rfl, rfl⟩), ?_, ?_⟩
  · intro nothing
    rcases (silent rfl rfl (modes.quiet.mpr rfl)).mp nothing with passed | undecided
    · exact absurd (low.symm.trans passed) (by decide)
    · exact absurd (low.symm.trans undecided) (by decide)
  · have parsed : Invocation.parse environment ["-q", "9"] = .ok quiet := by rfl
    rw [process ["toolgate", "-q", "9"] parsed]
    exact low

end VersionGate
