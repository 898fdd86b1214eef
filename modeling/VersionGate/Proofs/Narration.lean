import VersionGate.Proofs.Check
import VersionGate.Proofs.ReportJson
import VersionGate.Proofs.Ui.Terminal

namespace VersionGate.Cli.CheckOptions

variable {options : CheckOptions} {host : Host} {mode : Ui.Mode} {given : Option Source}
  {suffix : String} {source : Source}

theorem asked_silent (silent : ∀ source, given = some source → source.Silent)
    (found : options.asked host given = .ok source) : source.Silent := by
  cases given with
  | some given =>
      cases found
      exact silent source rfl
  | none =>
      simp only [asked, Source.ofCommandText] at found
      split at found
      · cases found
        exact Source.silent_ofCommand host _
      · cases found

def detailCalls (mode : Ui.Mode) : Except GateError Source → List Ui.Call
  | .ok source => if mode = .verbose then [⟨.detail, "query: " ++ source.describe⟩] else []
  | .error _ => []

def openingCalls (options : CheckOptions) (host : Host) (mode : Ui.Mode) (given : Option Source)
    (suffix : String) : List Ui.Call :=
  if options.json then []
  else ⟨.message, "expect_version: " ++ (options.toolchain ++ suffix)⟩ ::
    detailCalls mode (options.asked host given)

def warningCalls (report : Report) : List Ui.Call :=
  if report.lexicalDisagrees then [⟨.warning, report.disagreementText⟩] else []

def endingCalls (options : CheckOptions) : Except GateError Report → List Ui.Call
  | .ok report => warningCalls report ++ [options.verdictCall report]
  | .error _ => []

@[simp] theorem endingCalls_ok (report : Report) :
    options.endingCalls (.ok report) = warningCalls report ++ [options.verdictCall report] := rfl

@[simp] theorem endingCalls_error (error : GateError) :
    options.endingCalls (.error error) = [] := rfl

theorem calls_announcement (options : CheckOptions) (suffix : String) :
    calls (options.announcement suffix) =
      if options.json then []
      else [⟨.message, "expect_version: " ++ (options.toolchain ++ suffix)⟩] := by
  unfold announcement
  split <;> rfl

theorem calls_opening (options : CheckOptions) (mode : Ui.Mode) (source : Source) :
    calls (options.opening mode source) =
      if options.json then [] else detailCalls mode (.ok source) := by
  unfold opening detailCalls
  cases mode <;> cases options.json <;> rfl

theorem calls_presentation (options : CheckOptions) (report : Report) :
    calls (options.presentation report) = warningCalls report ++ [options.verdictCall report] := by
  unfold presentation warningCalls
  split <;> simp

theorem calls_check (wanted : options.minVersion = some suffix)
    (silent : ∀ source, given = some source → source.Silent) :
    calls (options.check host mode given).events =
      options.openingCalls host mode given suffix ++
        options.endingCalls (options.finding host given suffix) := by
  unfold openingCalls finding
  cases found : options.asked host given with
  | error error =>
      rw [check_of_unasked wanted found, calls_announcement]
      split <;> rfl
  | ok source =>
      -- A silent source adds nothing between the opening and the ending.
      have quiet := (asked_silent silent found).calls_installedVersion
      rw [check_of_asked wanted found, checkSource_events]
      simp only [calls_append, calls_announcement, calls_opening, Gate.calls_check, quiet,
        Except.bind]
      cases (options.gate.check suffix source).result with
      | error error => cases options.json <;> simp
      | ok report => cases options.json <;> simp [calls_presentation]

/-- A check has come to a report, and its exit code is that of the verdict. -/
structure Found (options : CheckOptions) (host : Host) (given : Option Source) (suffix : String)
    (report : Report) (outcome : Outcome) : Prop where
  installed : ∃ source, options.asked host given = .ok source ∧
    (installedVersion source).result = .ok report.installed
  required : report.required = options.toolchain ++ suffix
  toolchain : report.toolchain = options.toolchain
  comparison : report.comparison = options.compare
  exitCode : outcome.exitCode = if report.satisfied then 0 else 1

theorem Found.of_finding {report : Report} (reached : options.finding host given suffix = .ok report) :
    options.Found host given suffix report report.outcome := by
  unfold finding at reached
  cases found : options.asked host given with
  | error error => simp [found, Except.bind] at reached
  | ok source =>
      rw [found] at reached
      obtain ⟨version, ordering, answered, _, rfl⟩ := Gate.check_eq_ok_iff.mp reached
      refine ⟨⟨source, found, answered⟩, rfl, rfl, rfl, ?_⟩
      unfold Report.outcome
      split <;> rfl

def AtMostOneWarning (said : List Ui.Call) : Prop :=
  said = [] ∨ ∃ text, said = [⟨.warning, text⟩]

theorem warningCalls_atMostOne (report : Report) : AtMostOneWarning (warningCalls report) := by
  unfold warningCalls
  split
  · exact .inr ⟨_, rfl⟩
  · exact .inl rfl

/-- A last call that says of a report what the exit code says. -/
structure Verdict (report : Report) (exitCode : UInt8) (last : Ui.Call) : Prop where
  success : last = ⟨.success, report.installed ++ " satisfies " ++ report.required⟩ ↔ exitCode = 0
  failure : last = ⟨.failure, "real " ++ report.toolchain ++ " version: " ++ report.installed⟩ ↔
    exitCode = 1

/-- What is said after the opening of a check, by the way the check ends: nothing after an error, and
after a report at most one warning and then the verdict, or as data a text from which the report can be
read. -/
inductive Ending (options : CheckOptions) (host : Host) (given : Option Source) (suffix : String) :
    Except GateError Outcome → List Ui.Call → Prop where
  | undecided (error : GateError) : Ending options host given suffix (.error error) []
  | plain {report : Report} {outcome : Outcome} {warnings : List Ui.Call} {last : Ui.Call}
      (isPlain : options.json = false) (found : options.Found host given suffix report outcome)
      (mild : AtMostOneWarning warnings) (verdict : Verdict report outcome.exitCode last) :
      Ending options host given suffix (.ok outcome) (warnings ++ [last])
  | json {report : Report} {outcome : Outcome} {warnings : List Ui.Call}
      (isJson : options.json = true) (found : options.Found host given suffix report outcome)
      (mild : AtMostOneWarning warnings) (decodes : Report.ofJson? report.json = some report) :
      Ending options host given suffix (.ok outcome) (warnings ++ [⟨.data, report.json⟩])

theorem verdictCall_of_json (json : options.json = true) (report : Report) :
    options.verdictCall report = ⟨.data, report.json⟩ := by
  simp [verdictCall, json]

theorem verdictCall_verdict (plain : options.json = false) (report : Report) :
    Verdict report report.outcome.exitCode (options.verdictCall report) := by
  cases satisfied : report.satisfied with
  | true =>
      constructor <;> simp [verdictCall, Report.outcome, Outcome.passed, plain, satisfied]
  | false =>
      constructor <;> simp [verdictCall, Report.outcome, Outcome.failed, plain, satisfied]

theorem ending_of_finding (options : CheckOptions) (host : Host) (given : Option Source)
    (suffix : String) :
    options.Ending host given suffix ((options.finding host given suffix).map Report.outcome)
      (options.endingCalls (options.finding host given suffix)) := by
  cases reached : options.finding host given suffix with
  | error error => exact .undecided error
  | ok report =>
      have mild := warningCalls_atMostOne report
      rw [endingCalls_ok]
      cases json : options.json with
      | false => exact .plain json (.of_finding reached) mild (verdictCall_verdict json report)
      | true =>
          rw [verdictCall_of_json json]
          exact .json json (.of_finding reached) mild report.ofJson?_json

theorem Ending.eq_nil_of_error {error : GateError} {said : List Ui.Call}
    (ending : options.Ending host given suffix (.error error) said) : said = [] := by
  cases ending
  rfl

theorem channel_of_detail {call : Ui.Call} {asked : Except GateError Source}
    (said : call ∈ detailCalls mode asked) : call.channel = .detail := by
  unfold detailCalls at said
  split at said
  · split at said
    · rw [List.mem_singleton.mp said]
    · cases said
  · cases said

theorem channel_of_warning {call : Ui.Call} {report : Report}
    (said : call ∈ warningCalls report) : call.channel = .warning := by
  unfold warningCalls at said
  split at said
  · rw [List.mem_singleton.mp said]
  · cases said

theorem channel_of_opening {call : Ui.Call}
    (said : call ∈ options.openingCalls host mode given suffix) :
    call.channel = .message ∨ call.channel = .detail := by
  unfold openingCalls at said
  split at said
  · cases said
  · rcases List.mem_cons.mp said with rfl | later
    · exact .inl rfl
    · exact .inr (channel_of_detail later)

variable (shown : Ui.Channel → Bool)

theorem filter_detailCalls (hidden : shown .detail = false) (asked : Except GateError Source) :
    (detailCalls mode asked).filter (shown ·.channel) = [] :=
  Ui.filter_hidden fun call member => by rw [channel_of_detail member, hidden]

theorem filter_warningCalls (hidden : shown .warning = false) (report : Report) :
    (warningCalls report).filter (shown ·.channel) = [] :=
  Ui.filter_hidden fun call member => by rw [channel_of_warning member, hidden]

theorem filter_openingCalls (noMessage : shown .message = false) (noDetail : shown .detail = false) :
    (options.openingCalls host mode given suffix).filter (shown ·.channel) = [] :=
  Ui.filter_hidden fun call member => by
    rcases channel_of_opening member with message | detail
    · rw [message, noMessage]
    · rw [detail, noDetail]

/-- What a check says agrees with how it ends. Without a version it is one failure, and nothing is asked.
Otherwise the required version is announced, with the query in the verbose mode, and an ending follows
that fits the result; with JSON output there is nothing but the ending. An error leaves no call that
could be taken for a verdict. -/
theorem check_calls_truthful (options : CheckOptions) (host : Host) (mode : Ui.Mode)
    (given : Option Source) (silent : ∀ source, given = some source → source.Silent) :
    let run := options.check host mode given
    let said := calls run.events
    (options.minVersion = none →
      (∃ text, said = [⟨.failure, text⟩]) ∧ queryCount run.events = 0 ∧
        ∃ outcome, run.result = .ok outcome ∧ outcome.exitCode = 2) ∧
    ∀ suffix, options.minVersion = some suffix →
      (options.json = false → ∃ ending, options.Ending host given suffix run.result ending ∧
        said = ⟨.message, "expect_version: " ++ (options.toolchain ++ suffix)⟩ ::
          (detailCalls mode (options.asked host given) ++ ending)) ∧
      (options.json = true → options.Ending host given suffix run.result said) ∧
      ∀ error, run.result = .error error →
        ∀ call ∈ said, call.channel = .message ∨ call.channel = .detail := by
  intro run said
  refine ⟨fun missing => ?_, fun suffix wanted => ?_⟩
  · have ended : run = _ := check_of_no_version missing
    rw [show said = calls run.events from rfl, ended]
    exact ⟨⟨_, rfl⟩, rfl, _, rfl, rfl⟩
  have spoken : said = _ := calls_check wanted silent
  have ending : options.Ending host given suffix run.result
      (options.endingCalls (options.finding host given suffix)) := by
    rw [show run.result = _ from check_result wanted]
    exact options.ending_of_finding host given suffix
  refine ⟨fun plain => ⟨_, ending, ?_⟩, fun json => ?_, fun error failed call member => ?_⟩
  · rw [spoken, openingCalls, if_neg (by simp [plain]), List.cons_append]
  · rw [spoken, openingCalls, if_pos json]
    exact ending
  · rw [failed] at ending
    rw [spoken, ending.eq_nil_of_error, List.append_nil] at member
    exact channel_of_opening member

/-- Version `10` against `9` in the verbose mode: whatever the warning, the last call is the failure that
goes with the exit code 1. A source that cannot be read leaves the announcement and the detail alone. -/
theorem check_calls_truthful_go :
    let host : Host := fun _ => .error (.system 2)
    let run source :=
      ({ minVersion := some "9" } : CheckOptions).check host .verbose (some source)
    let opening description : List Ui.Call :=
      [⟨.message, "expect_version: go9"⟩, ⟨.detail, "query: " ++ description⟩]
    (∃ warnings, AtMostOneWarning warnings ∧
      calls (run (.fixed "go version go10 linux/amd64\n")).events =
        opening "static output" ++ (warnings ++ [⟨.failure, "real go version: go10"⟩])) ∧
      calls (run ⟨"files", .fail (.io (.system 13))⟩).events = opening "files" := by
  intro host run opening
  have silent (source : Source) (quiet : source.Silent) (other : Source)
      (same : some source = some other) : other.Silent := by
    cases same
    exact quiet
  constructor
  · obtain ⟨_, versions⟩ := check_calls_truthful { minVersion := some "9" } host .verbose
      (some (.fixed "go version go10 linux/amd64\n")) (silent _ (Source.silent_fixed _))
    obtain ⟨ending, ends, said⟩ := (versions "9" rfl).1 rfl
    have done : (run (.fixed "go version go10 linux/amd64\n")).result = .ok (.failed 1) := by cbv
    rw [show (CheckOptions.check _ _ _ _).result = _ from done] at ends
    cases ends with
    | json isJson => cases isJson
    | @plain report _ warnings last _ found mild verdict =>
        obtain ⟨source, asked, installed⟩ := found.installed
        cases asked
        have answer : (installedVersion (.fixed "go version go10 linux/amd64\n")).result =
            .ok "go10" := by cbv
        rw [answer] at installed
        have version : report.installed = "go10" := (Except.ok.inj installed).symm
        have failure : last = ⟨.failure, "real go version: go10"⟩ := by
          rw [verdict.failure.mpr rfl, found.toolchain, version]
          rfl
        exact ⟨warnings, mild, by rw [said, failure]; rfl⟩
  · obtain ⟨_, versions⟩ := check_calls_truthful { minVersion := some "9" } host .verbose
      (some ⟨"files", .fail (.io (.system 13))⟩) (silent _ rfl)
    obtain ⟨ending, ends, said⟩ := (versions "9" rfl).1 rfl
    have failed : (run ⟨"files", .fail (.io (.system 13))⟩).result =
        .error (.io (.system 13)) := rfl
    rw [show (CheckOptions.check _ _ _ _).result = _ from failed] at ends
    rw [ends.eq_nil_of_error] at said
    exact said

end VersionGate.Cli.CheckOptions
