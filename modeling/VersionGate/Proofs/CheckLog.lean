import VersionGate.Proofs.ExitCode

/-!
What a check writes to the log.

A check passes through five functions, and each of them that gets far enough leaves an entry or two, so that
the log is put together from a part for the child, a part for its answer and a part for the report. Which
entries there are is therefore known from what became of the child, the query and the comparison, and their
order is the order of the parts.
-/

namespace VersionGate

variable {host : Host} {mode : Ui.Mode} {command : CommandLine} {child : Child} {suffix : String}
  {source : Source} {error : GateError} {report : Report}

def childEntries (command : CommandLine) : Except IoFault Child → List Log.Event
  | .error _ => []
  | .ok child =>
    .finished command child.status ::
      match reportedVersion (outputText child.stdout) with
      | .ok _ => if child.status.isSuccess then [] else [.unsuccessful command child.status]
      | .error _ => []

def answerEntries (described : String) : Except GateError String → List Log.Event
  | .ok output => [.output described (String.ofList (Text.trimEnd output.toList))]
  | .error _ => []

def reportEntries : Except GateError Report → List Log.Event
  | .ok report => [.evaluated report]
  | .error _ => []

theorem mem_childEntries_iff {entry : Log.Event} {reply : Except IoFault Child} :
    entry ∈ childEntries command reply ↔ ∃ child, reply = .ok child ∧
      (entry = .finished command child.status ∨
        child.status ≠ .exited 0 ∧
          (∃ version, reportedVersion (outputText child.stdout) = .ok version) ∧
          entry = .unsuccessful command child.status) := by
  cases reply with
  | error fault => simp [childEntries]
  | ok child =>
      simp only [← ExitStatus.isSuccess_eq_false_iff]
      cases read : reportedVersion (outputText child.stdout) <;>
        cases ending : child.status.isSuccess <;> simp [childEntries, read, ending]

theorem mem_answerEntries_iff {entry : Log.Event} {described : String}
    {answer : Except GateError String} :
    entry ∈ answerEntries described answer ↔ ∃ output, answer = .ok output ∧
      entry = .output described (String.ofList (Text.trimEnd output.toList)) := by
  cases answer <;> simp [answerEntries]

theorem mem_reportEntries_iff {entry : Log.Event} {result : Except GateError Report} :
    entry ∈ reportEntries result ↔ ∃ report, result = .ok report ∧ entry = .evaluated report := by
  cases result <;> simp [reportEntries]

/-- How important an entry is, and what it says. -/
def kind (entry : Log.Event) : Log.Level × String :=
  (entry.level, entry.message)

theorem childEntries_kinds (command : CommandLine) (reply : Except IoFault Child) :
    ((childEntries command reply).map kind).Sublist
      [(.debug, "command finished"),
        (.warn, "toolchain query exited unsuccessfully; using its version output")] := by
  cases reply with
  | error fault => exact List.nil_sublist _
  | ok child =>
      refine List.Sublist.cons_cons _ ?_
      cases reportedVersion (outputText child.stdout) with
      | error reason => exact List.nil_sublist _
      | ok version =>
          cases child.status.isSuccess with
          | true => exact List.nil_sublist _
          | false => exact List.Sublist.refl _

theorem answerEntries_kinds (described : String) (answer : Except GateError String) :
    ((answerEntries described answer).map kind).Sublist [(.debug, "toolchain output")] := by
  cases answer with
  | error error => exact List.nil_sublist _
  | ok output => exact List.Sublist.refl _

theorem reportEntries_kinds (result : Except GateError Report) :
    ((reportEntries result).map kind).Sublist [(.info, "version gate evaluated")] := by
  cases result with
  | error error => exact List.nil_sublist _
  | ok report => exact List.Sublist.refl _

theorem logEvents_queryCommand (host : Host) (command : CommandLine) :
    logEvents (queryCommand host command).events = childEntries command (host command) := by
  cases reply : host command with
  | error fault => simp [queryCommand_of_fault reply, childEntries]
  | ok child =>
      cases read : reportedVersion (outputText child.stdout) with
      | ok version =>
          cases ending : child.status.isSuccess with
          | true => simp [queryCommand_of_success reply ending, childEntries, read, ending]
          | false => simp [queryCommand_of_version reply ending read, childEntries, read, ending]
      | error reason =>
          cases ending : child.status.isSuccess with
          | true => simp [queryCommand_of_success reply ending, childEntries, read]
          | false => simp [queryCommand_of_failure reply ending read, childEntries, read]

theorem logEvents_installedVersion (source : Source) :
    logEvents (installedVersion source).events =
      logEvents source.query.events ++ answerEntries source.describe source.query.result := by
  cases asked : source.query.result with
  | error error => simp [installedVersion_of_error asked, answerEntries]
  | ok output => simp [installedVersion_of_output asked, answerEntries, Source.outputEntry]

theorem Gate.logEvents_check (gate : Gate) (suffix : String) (source : Source) :
    logEvents (gate.check suffix source).events =
      logEvents (installedVersion source).events ++
        reportEntries (gate.check suffix source).result := by
  rw [check_events]
  cases (gate.check suffix source).result <;> simp [reportEntries]

def Run.exitCode (run : Run Outcome) : UInt8 :=
  match run.result with
  | .ok outcome => outcome.exitCode
  | .error error => error.exitCode

namespace Cli.CheckOptions

variable {options : CheckOptions} {given : Option CommandLine}

/-- The command that a check runs: the one it is given, or else its query command. -/
def command? (options : CheckOptions) (given : Option CommandLine) : Option CommandLine :=
  given.or (CommandLine.parse? options.queryCommand)

/-- A check that is given a command to run, or runs its query command. -/
def checkCommand (options : CheckOptions) (host : Host) (mode : Ui.Mode)
    (given : Option CommandLine) : Run Outcome :=
  options.check host mode (given.map (Source.ofCommand host))

def Starts (options : CheckOptions) (host : Host) (given : Option CommandLine) (command : CommandLine)
    (child : Child) : Prop :=
  options.command? given = some command ∧ host command = .ok child

def Answers (options : CheckOptions) (host : Host) (given : Option CommandLine) (command : CommandLine)
    (output : String) : Prop :=
  options.command? given = some command ∧ (Source.ofCommand host command).query.result = .ok output

def Returns (options : CheckOptions) (host : Host) (given : Option CommandLine) (suffix : String)
    (report : Report) : Prop :=
  ∃ command, options.command? given = some command ∧
    (options.gate.check suffix (.ofCommand host command)).result = .ok report

def entries (options : CheckOptions) (host : Host) (suffix : String) (command : CommandLine) :
    List Log.Event :=
  .querying command.display ::
    (childEntries command (host command) ++
      (answerEntries command.display (Source.ofCommand host command).query.result ++
        reportEntries (options.gate.check suffix (.ofCommand host command)).result))

theorem logEvents_announcement (options : CheckOptions) (suffix : String) :
    logEvents (options.announcement suffix) = [] := by
  unfold announcement
  split <;> simp

theorem logEvents_opening (options : CheckOptions) (mode : Ui.Mode) (source : Source) :
    logEvents (options.opening mode source) = [.querying source.describe] := by
  unfold opening
  split <;> simp

theorem logEvents_presentation (options : CheckOptions) (report : Report) :
    logEvents (options.presentation report) = [] := by
  unfold presentation
  split <;> simp

theorem logEvents_checkSource (options : CheckOptions) (mode : Ui.Mode) (suffix : String)
    (source : Source) :
    logEvents (options.checkSource mode suffix source).events =
      .querying source.describe :: logEvents (options.gate.check suffix source).events := by
  rw [checkSource_events, logEvents_append, logEvents_append, logEvents_opening]
  cases (options.gate.check suffix source).result <;> simp [logEvents_presentation]

theorem asked_ofCommand (options : CheckOptions) (host : Host) (given : Option CommandLine) :
    options.asked host (given.map (Source.ofCommand host)) =
      match options.command? given with
      | some command => .ok (.ofCommand host command)
      | none => .error (.queryFailed options.queryCommand "query command is empty") := by
  cases given with
  | some command => rfl
  | none =>
      cases spelt : CommandLine.parse? options.queryCommand with
      | none => simp [asked, command?, Source.ofCommandText, spelt]
      | some command => simp [asked, command?, Source.ofCommandText, spelt]

theorem logEvents_checkCommand (wanted : options.minVersion = some suffix) :
    logEvents (options.checkCommand host mode given).events =
      match options.command? given with
      | some command => options.entries host suffix command
      | none => [] := by
  have asked := options.asked_ofCommand host given
  unfold checkCommand
  cases runs : options.command? given with
  | none =>
      rw [runs] at asked
      rw [check_of_unasked wanted asked, logEvents_announcement]
  | some command =>
      rw [runs] at asked
      rw [check_of_asked wanted asked, logEvents_append, logEvents_announcement, logEvents_checkSource,
        Gate.logEvents_check, logEvents_installedVersion, List.append_assoc]
      -- The source of a command queries by running it.
      change _ :: (logEvents (VersionGate.queryCommand host command).events ++ _) = _
      rw [logEvents_queryCommand]
      rfl

/-- The kinds of entries that a check may write, in their order. -/
def kinds : List (Log.Level × String) :=
  [(.debug, "querying toolchain"),
    (.debug, "command finished"),
    (.warn, "toolchain query exited unsuccessfully; using its version output"),
    (.debug, "toolchain output"),
    (.info, "version gate evaluated")]

/-- An entry of the log of a check, with what it tells. -/
inductive Tells (options : CheckOptions) (host : Host) (given : Option CommandLine) (suffix : String) :
    Log.Event → Prop where
  | querying {command : CommandLine} (runs : options.command? given = some command) :
      Tells options host given suffix (.querying command.display)
  | finished {command : CommandLine} {child : Child}
      (starts : options.Starts host given command child) :
      Tells options host given suffix (.finished command child.status)
  | unsuccessful {command : CommandLine} {child : Child} {version : String}
      (starts : options.Starts host given command child) (failed : child.status ≠ .exited 0)
      (reported : reportedVersion (outputText child.stdout) = .ok version) :
      Tells options host given suffix (.unsuccessful command child.status)
  | output {command : CommandLine} {output : String}
      (answers : options.Answers host given command output) :
      Tells options host given suffix
        (.output command.display (String.ofList (Text.trimEnd output.toList)))
  | evaluated {report : Report} (returns : options.Returns host given suffix report) :
      Tells options host given suffix (.evaluated report)

theorem Tells.command? {entry : Log.Event} (tells : options.Tells host given suffix entry) :
    ∃ command, options.command? given = some command := by
  cases tells with
  | querying runs => exact ⟨_, runs⟩
  | finished starts => exact ⟨_, starts.1⟩
  | unsuccessful starts => exact ⟨_, starts.1⟩
  | output answers => exact ⟨_, answers.1⟩
  | evaluated returns =>
      obtain ⟨command, runs, -⟩ := returns
      exact ⟨command, runs⟩

theorem mem_entries_iff {entry : Log.Event} (runs : options.command? given = some command) :
    entry ∈ options.entries host suffix command ↔ options.Tells host given suffix entry := by
  simp only [entries, List.mem_cons, List.mem_append, mem_childEntries_iff, mem_answerEntries_iff,
    mem_reportEntries_iff]
  constructor
  · rintro (rfl | ⟨child, started, rfl | ⟨failed, ⟨version, reported⟩, rfl⟩⟩ |
      ⟨output, answered, rfl⟩ | ⟨report, returned, rfl⟩)
    · exact .querying runs
    · exact .finished ⟨runs, started⟩
    · exact .unsuccessful ⟨runs, started⟩ failed reported
    · exact .output ⟨runs, answered⟩
    · exact .evaluated ⟨command, runs, returned⟩
  · intro tells
    cases tells with
    | querying same =>
        cases runs.symm.trans same
        exact .inl rfl
    | finished starts =>
        cases runs.symm.trans starts.1
        exact .inr (.inl ⟨_, starts.2, .inl rfl⟩)
    | unsuccessful starts failed reported =>
        cases runs.symm.trans starts.1
        exact .inr (.inl ⟨_, starts.2, .inr ⟨failed, ⟨_, reported⟩, rfl⟩⟩)
    | output answers =>
        cases runs.symm.trans answers.1
        exact .inr (.inr (.inl ⟨_, answers.2, rfl⟩))
    | evaluated returns =>
        obtain ⟨other, same, returned⟩ := returns
        cases runs.symm.trans same
        exact .inr (.inr (.inr ⟨_, returned, rfl⟩))

/-- The log of a check holds the entries that tell of it and no others. -/
theorem mem_logEvents_checkCommand_iff {entry : Log.Event} (wanted : options.minVersion = some suffix) :
    entry ∈ logEvents (options.checkCommand host mode given).events ↔
      options.Tells host given suffix entry := by
  rw [logEvents_checkCommand wanted]
  cases runs : options.command? given with
  | some command => exact mem_entries_iff runs
  | none =>
      refine iff_of_false List.not_mem_nil fun tells => ?_
      obtain ⟨command, same⟩ := tells.command?
      rw [runs] at same
      cases same

theorem kinds_logEvents_checkCommand (wanted : options.minVersion = some suffix) :
    ((logEvents (options.checkCommand host mode given).events).map kind).Sublist kinds := by
  rw [logEvents_checkCommand wanted]
  cases options.command? given with
  | none => exact List.nil_sublist _
  | some command =>
      simp only [entries, List.map_cons, List.map_append]
      exact .cons_cons _ ((childEntries_kinds _ _).append
        ((answerEntries_kinds _ _).append (reportEntries_kinds _)))

theorem finding_ofCommand (options : CheckOptions) (host : Host) (given : Option CommandLine)
    (suffix : String) :
    options.finding host (given.map (Source.ofCommand host)) suffix =
      match options.command? given with
      | some command => (options.gate.check suffix (.ofCommand host command)).result
      | none => .error (.queryFailed options.queryCommand "query command is empty") := by
  rw [finding, asked_ofCommand]
  cases options.command? given <;> rfl

theorem finding_eq_ok_iff_returns :
    options.finding host (given.map (Source.ofCommand host)) suffix = .ok report ↔
      options.Returns host given suffix report := by
  rw [finding_ofCommand]
  cases runs : options.command? given <;> simp [Returns, runs]

theorem fromCheck_of_installedVersion
    (failed : (installedVersion (.ofCommand host command)).result = .error error) :
    error.FromCheck := by
  rcases installedVersion_cases host command with
    ⟨child, version, _, _, answered⟩ | ⟨message, _, _, refused⟩
  · rw [answered] at failed
    cases failed
  · rw [refused] at failed
    cases failed
    exact .queryFailed _ _

/-- A check of a command that finds no report is left undecided. -/
theorem fromCheck_of_finding
    (failed : options.finding host (given.map (Source.ofCommand host)) suffix = .error error) :
    error.FromCheck := by
  rw [finding_ofCommand] at failed
  split at failed
  · rename_i command runs
    rcases options.gate.check_cases suffix (.ofCommand host command) with
      ⟨other, asked, ended⟩ | ⟨version, other, asked, disordered, ended⟩ |
        ⟨version, ordering, asked, ordered, ended⟩
    · rw [ended] at failed
      cases failed
      exact fromCheck_of_installedVersion asked
    · rw [ended] at failed
      cases failed
      obtain ⟨_, _, unread, _, rfl⟩ := order_error_cases disordered
      exact .unrecognizedVersion unread
    · rw [ended] at failed
      cases failed
  · cases failed
    exact .queryFailed _ _

theorem exitCode_checkCommand_iff (wanted : options.minVersion = some suffix) :
    (options.checkCommand host mode given).exitCode = 0 ∨
        (options.checkCommand host mode given).exitCode = 1 ↔
      ∃ report, options.Returns host given suffix report := by
  have result : (options.checkCommand host mode given).result = _ := check_result wanted
  simp only [← finding_eq_ok_iff_returns, Run.exitCode, result]
  cases found : options.finding host (given.map (Source.ofCommand host)) suffix with
  | ok report =>
      cases satisfied : report.satisfied <;>
        simp [Except.map, Report.outcome, satisfied, Outcome.passed, Outcome.failed]
  | error error => simp [Except.map, (fromCheck_of_finding found).exitCode_eq]

/-- A log that tells of a check what became of its child, its query and its comparison. -/
structure TruthfulLog (options : CheckOptions) (host : Host) (given : Option CommandLine)
    (suffix : String) (log : List Log.Event) : Prop where
  /-- No kind of entry comes twice or out of its turn. -/
  ordered : (log.map kind).Sublist kinds
  asked : ∀ described, .querying described ∈ log ↔
    ∃ command, options.command? given = some command ∧ described = command.display
  finished : ∀ command status, .finished command status ∈ log ↔
    ∃ child, options.Starts host given command child ∧ child.status = status
  warned : ∀ command status, .unsuccessful command status ∈ log ↔
    ∃ child version, options.Starts host given command child ∧ child.status = status ∧
      status ≠ .exited 0 ∧ reportedVersion (outputText child.stdout) = .ok version
  answered : ∀ described text, .output described text ∈ log ↔
    ∃ command output, options.Answers host given command output ∧ described = command.display ∧
      text = String.ofList (Text.trimEnd output.toList)
  evaluated : ∀ report, .evaluated report ∈ log ↔ options.Returns host given suffix report
  /-- The only entries for information are those about a report, and they give its fields. -/
  informed : ∀ entry ∈ log, entry.level = .info → ∃ report, options.Returns host given suffix report ∧
    ∀ elapsed, entry.fields elapsed =
      [("toolchain", report.toolchain), ("installed", report.installed),
        ("required", report.required), ("comparison", report.comparison.name),
        ("satisfied", if report.satisfied then "true" else "false")]

theorem truthfulLog_of_tells {log : List Log.Event} (ordered : (log.map kind).Sublist kinds)
    (told : ∀ entry, entry ∈ log ↔ options.Tells host given suffix entry) :
    options.TruthfulLog host given suffix log where
  ordered := ordered
  asked described := by
    rw [told]
    constructor
    · intro tells
      cases tells with
      | querying runs => exact ⟨_, runs, rfl⟩
    · rintro ⟨command, runs, rfl⟩
      exact .querying runs
  finished command status := by
    rw [told]
    constructor
    · intro tells
      cases tells with
      | finished starts => exact ⟨_, starts, rfl⟩
    · rintro ⟨child, starts, rfl⟩
      exact .finished starts
  warned command status := by
    rw [told]
    constructor
    · intro tells
      cases tells with
      | unsuccessful starts failed reported => exact ⟨_, _, starts, rfl, failed, reported⟩
    · rintro ⟨child, version, starts, rfl, failed, reported⟩
      exact .unsuccessful starts failed reported
  answered described text := by
    rw [told]
    constructor
    · intro tells
      cases tells with
      | output answers => exact ⟨_, _, answers, rfl, rfl⟩
    · rintro ⟨command, output, answers, rfl, rfl⟩
      exact .output answers
  evaluated report := by
    rw [told]
    constructor
    · intro tells
      cases tells with
      | evaluated returns => exact returns
    · exact .evaluated
  informed entry member info := by
    cases (told entry).mp member with
    | evaluated returns => exact ⟨_, returns, fun _ => rfl⟩
    | querying | finished | unsuccessful | output => cases info

end Cli.CheckOptions

open Cli Cli.CheckOptions

/-- What a check of a command logs, however its child ends. No kind of entry comes twice or out of its turn, and
each is there exactly if what it tells has happened. In particular a report is told of exactly if the run
ends with the code 0 or 1, for a check by itself and for the run of an invocation. -/
theorem check_log_truthful (options : CheckOptions) (host : Host) (mode : Ui.Mode)
    (given : Option CommandLine) (suffix : String) (wanted : options.minVersion = some suffix) :
    let run := options.checkCommand host mode given
    let log := logEvents run.events
    options.TruthfulLog host given suffix log ∧
      ((∃ entry ∈ log, entry.level = .info) ↔ run.exitCode = 0 ∨ run.exitCode = 1) ∧
      ∀ invocation : Invocation, invocation.check = options → invocation.completions = none →
        given = none → logEvents (invocation.run host mode).1 = log ∧
          (invocation.run host mode).2 = run.exitCode := by
  intro run log
  have truthful : options.TruthfulLog host given suffix log :=
    truthfulLog_of_tells (kinds_logEvents_checkCommand wanted) fun _ =>
      mem_logEvents_checkCommand_iff wanted
  refine ⟨truthful, ?_, ?_⟩
  · rw [exitCode_checkCommand_iff wanted]
    constructor
    · rintro ⟨entry, member, info⟩
      obtain ⟨report, returns, -⟩ := truthful.informed entry member info
      exact ⟨report, returns⟩
    · rintro ⟨report, returns⟩
      exact ⟨_, (truthful.evaluated report).mpr returns, rfl⟩
  · rintro invocation rfl plain rfl
    have dispatched : invocation.dispatch host mode = run := Invocation.dispatch_of_check plain
    cases result : run.result with
    | ok outcome =>
        rw [Invocation.run_of_outcome (dispatched ▸ result), dispatched]
        simp [Run.exitCode, result, log]
    | error error =>
        rw [Invocation.run_of_error (dispatched ▸ result), dispatched]
        simp [Run.exitCode, result, log]

/-- A child that fails and reports a version that is too low: its end, its failure and the report are logged. -/
theorem check_log_truthful_too_low :
    let command : CommandLine := ⟨"go", ["version"]⟩
    let child : Child := ⟨.exited 1, Text.Utf8.encode "go version go1.18\n".toList, []⟩
    let invocation : Invocation := { check := { minVersion := some "1.20" } }
    let run := invocation.run (fun _ => .ok child) .normal
    let log := logEvents run.1
    .finished command (.exited 1) ∈ log ∧ .unsuccessful command (.exited 1) ∈ log ∧
      .output "go version" "go version go1.18" ∈ log ∧
      .evaluated ⟨"go", "go1.20", "go1.18", .lexical, false⟩ ∈ log ∧ (run.2 = 0 ∨ run.2 = 1) := by
  intro command child invocation run log
  let host : Host := fun _ => .ok child
  obtain ⟨truthful, ended, same⟩ :=
    check_log_truthful invocation.check host .normal none "1.20" rfl
  obtain ⟨sameLog, sameCode⟩ := same invocation rfl rfl rfl
  have runs : invocation.check.command? none = some command := by cbv
  have starts : invocation.check.Starts host none command child := ⟨runs, rfl⟩
  have written : outputText child.stdout = "go version go1.18\n" := by decide
  have read : reportedVersion (outputText child.stdout) = .ok "go1.18" := by
    rw [written]
    cbv
  have answered : (Source.ofCommand host command).query.result = .ok "go version go1.18\n" := by
    rw [← written]
    exact congrArg Run.result (queryCommand_of_version rfl rfl read)
  have returned : (invocation.check.gate.check "1.20" (.ofCommand host command)).result =
      .ok ⟨"go", "go1.20", "go1.18", .lexical, false⟩ :=
    Gate.check_eq_ok_iff.mpr
      ⟨"go1.18", .lt, installedVersion_eq_ok_iff.mpr ⟨child, rfl, read⟩, by cbv, by cbv⟩
  have told := (truthful.evaluated _).mpr ⟨command, runs, returned⟩
  rw [show log = _ from sameLog, show run.2 = _ from sameCode]
  exact ⟨(truthful.finished _ _).mpr ⟨child, starts, rfl⟩,
    (truthful.warned _ _).mpr ⟨child, "go1.18", starts, rfl, by decide, read⟩,
    (truthful.answered _ _).mpr ⟨command, _, ⟨runs, answered⟩, rfl, rfl⟩,
    told, ended.mp ⟨_, told, rfl⟩⟩

end VersionGate
