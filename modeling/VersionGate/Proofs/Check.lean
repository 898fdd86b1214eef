import VersionGate.Check
import VersionGate.Proofs.Gate

/-!
The trace and the outcome of a version check.

A check is a fixed sequence: the announcement, the opening, the gate, and the presentation of the
report. Each part is named here, so that a statement about checks is one about these four. What the
check finds is named apart from them, since it does not depend on how much is said or in which form.
-/

namespace VersionGate

variable {host : Host} {mode : Ui.Mode} {given : Option Source} {suffix : String}
  {source : Source} {error : GateError} {report : Report}

def Report.outcome (report : Report) : Outcome :=
  if report.satisfied then .passed else .failed 1

namespace Cli.CheckOptions

variable {options : CheckOptions}

def announcement (options : CheckOptions) (suffix : String) : List Event :=
  if options.json then []
  else [.say ⟨.message, "expect_version: " ++ (options.toolchain ++ suffix)⟩]

/-- What is noted and said once there is a source. -/
def opening (options : CheckOptions) (mode : Ui.Mode) (source : Source) : List Event :=
  .log (.querying source.describe) ::
    if mode.showsDetail && !options.json then [.say ⟨.detail, "query: " ++ source.describe⟩] else []

/-- The line that gives the verdict of a report, or the report itself as data. -/
def verdictCall (options : CheckOptions) (report : Report) : Ui.Call :=
  if options.json then ⟨.data, report.json⟩
  else if report.satisfied then
    ⟨.success, report.installed ++ " satisfies " ++ report.required⟩
  else ⟨.failure, "real " ++ report.toolchain ++ " version: " ++ report.installed⟩

def presentation (options : CheckOptions) (report : Report) : List Event :=
  (if report.lexicalDisagrees then [.say ⟨.warning, report.disagreementText⟩] else []) ++
    [.say (options.verdictCall report)]

theorem sayUnlessJson_eq (options : CheckOptions) (channel : Ui.Channel) (text : String) :
    options.sayUnlessJson channel text =
      ⟨if options.json then [] else [.say ⟨channel, text⟩], .ok ()⟩ := by
  unfold sayUnlessJson
  split <;> rfl

theorem present_eq (options : CheckOptions) (report : Report) :
    options.present report = ⟨options.presentation report, .ok report.outcome⟩ := by
  cases disagrees : report.lexicalDisagrees <;> cases json : options.json <;>
    cases satisfied : report.satisfied <;>
    simp [present, presentation, verdictCall, sayUnlessJson_eq, Report.ensureSatisfied,
      Report.outcome, disagrees, json, satisfied] <;> rfl

theorem checkSource_eq_bind (options : CheckOptions) :
    options.checkSource mode suffix source =
      (⟨options.opening mode source, .ok ()⟩ : Run Unit) >>= fun _ =>
        options.gate.check suffix source >>= options.present := by
  cases detailed : mode.showsDetail <;> cases json : options.json <;>
    simp [checkSource, opening, sayUnlessJson_eq, detailed, json] <;> rfl

theorem checkSource_of_error (failed : (options.gate.check suffix source).result = .error error) :
    options.checkSource mode suffix source =
      ⟨options.opening mode source ++ (options.gate.check suffix source).events, .error error⟩ := by
  rw [checkSource_eq_bind, Run.mk_bind_ok, Run.bind_of_error failed]

theorem checkSource_of_report (reached : (options.gate.check suffix source).result = .ok report) :
    options.checkSource mode suffix source =
      ⟨options.opening mode source ++
          ((options.gate.check suffix source).events ++ options.presentation report),
        .ok report.outcome⟩ := by
  rw [checkSource_eq_bind, Run.mk_bind_ok, Run.bind_of_ok reached, present_eq]

theorem check_of_no_version (missing : options.minVersion = none) :
    options.check host mode given =
      ⟨[.say ⟨.failure, GateError.missingArgument.message⟩], .ok (.failed 2)⟩ := by
  simp only [check, missing]
  rfl

theorem check_of_given (wanted : options.minVersion = some suffix) :
    options.check host mode (some source) =
      ⟨options.announcement suffix ++ (options.checkSource mode suffix source).events,
        (options.checkSource mode suffix source).result⟩ := by
  simp only [check, wanted, sayUnlessJson_eq, Run.mk_bind_ok]
  rfl

theorem check_of_blank (wanted : options.minVersion = some suffix)
    (blank : CommandLine.parse? options.queryCommand = none) :
    options.check host mode none =
      ⟨options.announcement suffix,
        .error (.queryFailed options.queryCommand "query command is empty")⟩ := by
  simp only [check, wanted, sayUnlessJson_eq, Run.mk_bind_ok, Source.ofCommandText, blank]
  change (⟨_ ++ [], _⟩ : Run Outcome) = _
  rw [List.append_nil]
  rfl

theorem check_of_command {command : CommandLine} (wanted : options.minVersion = some suffix)
    (parsed : CommandLine.parse? options.queryCommand = some command) :
    options.check host mode none =
      options.check host mode (some (.ofCommand host command)) := by
  simp only [check, wanted, Source.ofCommandText, parsed]
  rfl

/-- The source that a check asks: the given one, or else the query command. -/
def asked (options : CheckOptions) (host : Host) (given : Option Source) :
    Except GateError Source :=
  match given with
  | some source => .ok source
  | none => Source.ofCommandText host options.queryCommand

/-- What a check finds, apart from all that is said about it. -/
def finding (options : CheckOptions) (host : Host) (given : Option Source) (suffix : String) :
    Except GateError Report :=
  (options.asked host given).bind fun source => (options.gate.check suffix source).result

theorem check_of_asked (wanted : options.minVersion = some suffix)
    (found : options.asked host given = .ok source) :
    options.check host mode given =
      ⟨options.announcement suffix ++ (options.checkSource mode suffix source).events,
        (options.checkSource mode suffix source).result⟩ := by
  cases given with
  | some given =>
      cases found
      exact check_of_given wanted
  | none =>
      simp only [asked, Source.ofCommandText] at found
      split at found
      · rename_i command parsed
        cases found
        rw [check_of_command wanted parsed, check_of_given wanted]
      · cases found

theorem check_of_unasked (wanted : options.minVersion = some suffix)
    (refused : options.asked host given = .error error) :
    options.check host mode given = ⟨options.announcement suffix, .error error⟩ := by
  cases given with
  | some given => cases refused
  | none =>
      simp only [asked, Source.ofCommandText] at refused
      split at refused
      · cases refused
      · rename_i blank
        cases refused
        exact check_of_blank wanted blank

theorem checkSource_result (options : CheckOptions) :
    (options.checkSource mode suffix source).result =
      (options.gate.check suffix source).result.map Report.outcome := by
  cases reached : (options.gate.check suffix source).result with
  | error error => rw [checkSource_of_error reached]; rfl
  | ok report => rw [checkSource_of_report reached]; rfl

theorem checkSource_events (options : CheckOptions) :
    (options.checkSource mode suffix source).events =
      options.opening mode source ++ ((options.gate.check suffix source).events ++
        match (options.gate.check suffix source).result with
        | .ok report => options.presentation report
        | .error _ => []) := by
  cases reached : (options.gate.check suffix source).result with
  | error error => simp [checkSource_of_error reached]
  | ok report => simp [checkSource_of_report reached]

/-- The outcome of a check is that of its finding, however it is presented. -/
theorem check_result (wanted : options.minVersion = some suffix) :
    (options.check host mode given).result =
      (options.finding host given suffix).map Report.outcome := by
  unfold finding
  cases found : options.asked host given with
  | error error =>
      rw [check_of_unasked wanted found]
      rfl
  | ok source =>
      rw [check_of_asked wanted found, checkSource_result]
      rfl

@[simp] theorem launches_announcement (options : CheckOptions) (suffix : String) :
    launches (options.announcement suffix) = [] := by
  unfold announcement
  split <;> simp

@[simp] theorem launches_opening (options : CheckOptions) (mode : Ui.Mode) (source : Source) :
    launches (options.opening mode source) = [] := by
  unfold opening
  split <;> simp

@[simp] theorem launches_presentation (options : CheckOptions) (report : Report) :
    launches (options.presentation report) = [] := by
  unfold presentation
  split <;> simp

theorem launches_checkSource (options : CheckOptions) (mode : Ui.Mode) (suffix : String)
    (source : Source) :
    launches (options.checkSource mode suffix source).events =
      launches (installedVersion source).events := by
  rw [← options.gate.launches_check suffix source]
  cases reached : (options.gate.check suffix source).result with
  | error error => simp [checkSource_of_error reached]
  | ok report => simp [checkSource_of_report reached]

/-- A check that has a version to check against runs its query command, if there is one, and nothing
else. -/
theorem launches_check (options : CheckOptions) (host : Host) (mode : Ui.Mode) :
    launches (options.check host mode none).events =
      if options.minVersion.isSome then (CommandLine.parse? options.queryCommand).toList else [] := by
  cases wanted : options.minVersion with
  | none => simp [check_of_no_version wanted]
  | some suffix =>
      cases parsed : CommandLine.parse? options.queryCommand with
      | none => simp [check_of_blank wanted parsed]
      | some command =>
          simp [check_of_command wanted parsed, check_of_given wanted, launches_checkSource,
            launches_installedVersion]

/-- A check starts a child exactly if it has a version to check against and a command to run. -/
theorem launchCount_check (options : CheckOptions) (host : Host) (mode : Ui.Mode) :
    launchCount (options.check host mode none).events =
      if options.minVersion.isSome ∧ (CommandLine.parse? options.queryCommand).isSome then 1
      else 0 := by
  rw [launchCount_eq_length, launches_check]
  cases options.minVersion <;> cases CommandLine.parse? options.queryCommand <;> rfl

end Cli.CheckOptions

end VersionGate
