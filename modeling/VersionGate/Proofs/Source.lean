import VersionGate.Proofs.CommandLine
import VersionGate.Proofs.Run
import VersionGate.Source

/-!
What a query command answers, for every way in which its child process can end.

The exit status of a child and its standard error matter only where its output holds no version
line. The output is looked at twice, by the query and by the reader of the version, and both must
come to the same judgement; the equations below settle each case once.
-/

namespace VersionGate

variable {host : Host} {command : CommandLine} {child : Child} {fault : IoFault}
  {version : String} {reason : VersionLineError} {error : GateError}

theorem execute_of_fault (refused : host command = .error fault) :
    execute host command = ⟨[.launch command], .error (.io fault)⟩ := by
  unfold execute
  rw [Run.bind_of_ok (Run.result_note _), refused]
  rfl

theorem execute_of_child (started : host command = .ok child) :
    execute host command =
      ⟨[.launch command, .log (.finished command child.status)],
        .ok ⟨child.status, outputText child.stdout, outputText child.stderr⟩⟩ := by
  unfold execute
  rw [Run.bind_of_ok (Run.result_note _), started]
  rfl

theorem queryCommand_of_fault (refused : host command = .error fault) :
    queryCommand host command =
      ⟨[.launch command], .error (.queryFailed command.display ("IO error: " ++ fault.text))⟩ := by
  simp only [queryCommand, execute_of_fault refused, Run.mk_mapError, Except.mapError,
    Run.mk_bind_error]
  rfl

theorem queryCommand_of_success (started : host command = .ok child)
    (succeeded : child.status.isSuccess = true) :
    queryCommand host command =
      ⟨[.launch command, .log (.finished command child.status)],
        .ok (outputText child.stdout)⟩ := by
  simp only [queryCommand, execute_of_child started, Run.mk_mapError, Except.mapError,
    Run.mk_bind_ok, succeeded, if_true]
  rfl

/-- A child that fails is believed if its output reports a version all the same. -/
theorem queryCommand_of_version (started : host command = .ok child)
    (failed : child.status.isSuccess = false)
    (reported : reportedVersion (outputText child.stdout) = .ok version) :
    queryCommand host command =
      ⟨[.launch command, .log (.finished command child.status),
          .log (.unsuccessful command child.status)],
        .ok (outputText child.stdout)⟩ := by
  simp only [queryCommand, execute_of_child started, Run.mk_mapError, Except.mapError,
    Run.mk_bind_ok, failed, Bool.false_eq_true, if_false, reported]
  rfl

theorem queryCommand_of_failure (started : host command = .ok child)
    (failed : child.status.isSuccess = false)
    (unread : reportedVersion (outputText child.stdout) = .error reason) :
    queryCommand host command =
      ⟨[.launch command, .log (.finished command child.status)],
        .error (.queryFailed command.display (failureText
          ⟨child.status, outputText child.stdout, outputText child.stderr⟩))⟩ := by
  simp only [queryCommand, execute_of_child started, Run.mk_mapError, Except.mapError,
    Run.mk_bind_ok, failed, Bool.false_eq_true, if_false, unread]
  rfl

def Source.outputEntry (source : Source) (output : String) : Event :=
  .log (.output source.describe (String.ofList (Text.trimEnd output.toList)))

theorem installedVersion_of_error {source : Source} (failed : source.query.result = .error error) :
    installedVersion source = ⟨.query source.describe :: source.query.events, .error error⟩ := by
  unfold installedVersion
  rw [Run.bind_of_ok (Run.result_note _), Run.bind_of_error failed]
  rfl

theorem installedVersion_of_output {source : Source} {output : String}
    (asked : source.query.result = .ok output) :
    installedVersion source =
      ⟨.query source.describe :: (source.query.events ++ [source.outputEntry output]),
        (reportedVersion output).mapError fun reason =>
          .queryFailed source.describe reason.message⟩ := by
  unfold installedVersion
  rw [Run.bind_of_ok (Run.result_note _), Run.bind_of_ok asked, Run.bind_of_ok (Run.result_log _)]
  cases reported : reportedVersion output <;> rfl

theorem ExitStatus.isSuccess_eq_true_iff {status : ExitStatus} :
    status.isSuccess = true ↔ status = .exited 0 := by
  cases status with
  | exited code => simp [isSuccess, code?]
  | signaled => simp [isSuccess, code?]

theorem ExitStatus.isSuccess_eq_false_iff {status : ExitStatus} :
    status.isSuccess = false ↔ status ≠ .exited 0 := by
  rw [← Bool.not_eq_true, isSuccess_eq_true_iff]

/-- The trace of a command that is asked for its version and reports one. The warning is the only
mark that a failure leaves. -/
def reportingTrace (command : CommandLine) (child : Child) : List Event :=
  [.query command.display, .launch command, .log (.finished command child.status)] ++
    (if child.status.isSuccess then [] else [.log (.unsuccessful command child.status)]) ++
    [(Source.ofCommand (fun _ => .ok child) command).outputEntry (outputText child.stdout)]

theorem installedVersion_of_fault (refused : host command = .error fault) :
    installedVersion (.ofCommand host command) =
      ⟨[.query command.display, .launch command],
        .error (.queryFailed command.display ("IO error: " ++ fault.text))⟩ := by
  have asked := queryCommand_of_fault refused
  rw [installedVersion_of_error (congrArg Run.result asked)]
  simp only [Source.ofCommand, asked]

theorem installedVersion_of_version (started : host command = .ok child)
    (reported : reportedVersion (outputText child.stdout) = .ok version) :
    installedVersion (.ofCommand host command) = ⟨reportingTrace command child, .ok version⟩ := by
  cases ending : child.status.isSuccess with
  | true =>
      have asked := queryCommand_of_success started ending
      rw [installedVersion_of_output (congrArg Run.result asked)]
      simp [Source.ofCommand, asked, reported, Except.mapError, reportingTrace, ending,
        Source.outputEntry]
  | false =>
      have asked := queryCommand_of_version started ending reported
      rw [installedVersion_of_output (congrArg Run.result asked)]
      simp [Source.ofCommand, asked, reported, Except.mapError, reportingTrace, ending,
        Source.outputEntry]

theorem installedVersion_of_failure (started : host command = .ok child)
    (failed : child.status.isSuccess = false)
    (unread : reportedVersion (outputText child.stdout) = .error reason) :
    installedVersion (.ofCommand host command) =
      ⟨[.query command.display, .launch command, .log (.finished command child.status)],
        .error (.queryFailed command.display (failureText
          ⟨child.status, outputText child.stdout, outputText child.stderr⟩))⟩ := by
  have asked := queryCommand_of_failure started failed unread
  rw [installedVersion_of_error (congrArg Run.result asked)]
  simp only [Source.ofCommand, asked]

theorem installedVersion_of_unread (started : host command = .ok child)
    (succeeded : child.status.isSuccess = true)
    (unread : reportedVersion (outputText child.stdout) = .error reason) :
    installedVersion (.ofCommand host command) =
      ⟨[.query command.display, .launch command, .log (.finished command child.status),
          (Source.ofCommand host command).outputEntry (outputText child.stdout)],
        .error (.queryFailed command.display reason.message)⟩ := by
  have asked := queryCommand_of_success started succeeded
  rw [installedVersion_of_output (congrArg Run.result asked)]
  simp [Source.ofCommand, asked, unread, Except.mapError]

/-- The message about a query that yields no version, given what became of its child process. -/
inductive QueryComplaint : Except IoFault Child → String → Prop where
  | notStarted (fault : IoFault) : QueryComplaint (.error fault) ("IO error: " ++ fault.text)
  /-- The child failed; what it wrote to standard error is added if that is not blank. -/
  | failed {child : Child} {reason : VersionLineError} {complaint : List Char}
      (unsuccessful : child.status ≠ .exited 0)
      (unread : reportedVersion (outputText child.stdout) = .error reason)
      (trimmed : Text.Trimmed (outputText child.stderr).toList complaint) :
      QueryComplaint (.ok child) ("exited with code " ++ child.status.text ++
        if complaint = [] then "" else ": " ++ String.ofList complaint)
  | unread {child : Child} {reason : VersionLineError}
      (successful : child.status = .exited 0)
      (unread : reportedVersion (outputText child.stdout) = .error reason) :
      QueryComplaint (.ok child) reason.message

theorem QueryComplaint.of_failure (failed : child.status.isSuccess = false)
    (unread : reportedVersion (outputText child.stdout) = .error reason) :
    QueryComplaint (.ok child) (failureText
      ⟨child.status, outputText child.stdout, outputText child.stderr⟩) := by
  have complaint := QueryComplaint.failed (ExitStatus.isSuccess_eq_false_iff.mp failed) unread
    (Text.trim_trimmed (outputText child.stderr).toList)
  unfold failureText
  generalize Text.trim (outputText child.stderr).toList = written at complaint
  cases written with
  | nil => exact complaint
  | cons c rest => simpa using complaint

/-- A query ends with a version or with a complaint, and which of them is decided without the exit
status and without standard error. -/
theorem installedVersion_cases (host : Host) (command : CommandLine) :
    (∃ child version, host command = .ok child ∧
      reportedVersion (outputText child.stdout) = .ok version ∧
      (installedVersion (.ofCommand host command)).result = .ok version) ∨
    ∃ message, QueryComplaint (host command) message ∧
      (∀ child, host command = .ok child →
        ∃ reason, reportedVersion (outputText child.stdout) = .error reason) ∧
      (installedVersion (.ofCommand host command)).result =
        .error (.queryFailed command.display message) := by
  cases reply : host command with
  | error fault =>
      refine .inr ⟨_, .notStarted fault, nofun, ?_⟩
      rw [installedVersion_of_fault reply]
  | ok child =>
      cases read : reportedVersion (outputText child.stdout) with
      | ok version =>
          refine .inl ⟨child, version, rfl, read, ?_⟩
          rw [installedVersion_of_version reply read]
      | error reason =>
          have unread : ∀ other, Except.ok child = (.ok other : Except IoFault Child) →
              ∃ reason, reportedVersion (outputText other.stdout) = .error reason := by
            intro other same
            cases same
            exact ⟨reason, read⟩
          cases ending : child.status.isSuccess with
          | true =>
              have successful := ExitStatus.isSuccess_eq_true_iff.mp ending
              refine .inr ⟨_, .unread successful read, unread, ?_⟩
              rw [installedVersion_of_unread reply ending read]
          | false =>
              refine .inr ⟨_, .of_failure ending read, unread, ?_⟩
              rw [installedVersion_of_failure reply ending read]

theorem installedVersion_eq_ok_iff :
    (installedVersion (.ofCommand host command)).result = .ok version ↔
      ∃ child, host command = .ok child ∧
        reportedVersion (outputText child.stdout) = .ok version := by
  rcases installedVersion_cases host command with
    ⟨child, found, started, read, result⟩ | ⟨message, _, unread, result⟩
  · simp [started, read, result]
  · simp only [result, reduceCtorEq, false_iff, not_exists, not_and]
    intro child started read
    obtain ⟨reason, unread⟩ := unread child started
    simp [unread] at read

/-- Asking a command starts one child, of this command, whatever comes of it. -/
theorem launches_installedVersion (host : Host) (command : CommandLine) :
    launches (installedVersion (.ofCommand host command)).events = [command] := by
  cases reply : host command with
  | error fault => simp [installedVersion_of_fault reply]
  | ok child =>
      cases read : reportedVersion (outputText child.stdout) with
      | ok version =>
          rw [installedVersion_of_version reply read]
          cases ending : child.status.isSuccess <;>
            simp [reportingTrace, ending, Source.outputEntry]
      | error reason =>
          cases ending : child.status.isSuccess with
          | true => simp [installedVersion_of_unread reply ending read, Source.outputEntry]
          | false => simp [installedVersion_of_failure reply ending read]

/-- A source that does not talk to the user. -/
def Source.Silent (source : Source) : Prop :=
  calls source.query.events = []

theorem Source.silent_fixed (output : String) : (fixed output).Silent := rfl

theorem Source.silent_ofCommand (host : Host) (command : CommandLine) :
    (ofCommand host command).Silent := by
  unfold Silent
  change calls (queryCommand host command).events = []
  cases reply : host command with
  | error fault => simp [queryCommand_of_fault reply]
  | ok child =>
      cases ending : child.status.isSuccess with
      | true => simp [queryCommand_of_success reply ending]
      | false =>
          cases read : reportedVersion (outputText child.stdout) with
          | ok version => simp [queryCommand_of_version reply ending read]
          | error reason => simp [queryCommand_of_failure reply ending read]

theorem Source.Silent.calls_installedVersion {source : Source} (silent : source.Silent) :
    calls (installedVersion source).events = [] := by
  unfold Silent at silent
  cases asked : source.query.result with
  | error error => simp [installedVersion_of_error asked, silent]
  | ok output => simp [installedVersion_of_output asked, silent, Source.outputEntry]

/-- Whether a query command yields a version, and which, is decided by the output of its child alone:
not by the exit status, the signal or the standard error. All else is a failed query that names the
command line and says what went wrong. -/
theorem installedVersion_exit_status_secondary (host : Host) (command : CommandLine) :
    (∀ version, (installedVersion (.ofCommand host command)).result = .ok version ↔
      ∃ child, host command = .ok child ∧
        reportedVersion (outputText child.stdout) = .ok version) ∧
    (∀ (other : Host) (child otherChild : Child), host command = .ok child →
      other command = .ok otherChild → outputText child.stdout = outputText otherChild.stdout →
      ∀ version, (installedVersion (.ofCommand host command)).result = .ok version ↔
        (installedVersion (.ofCommand other command)).result = .ok version) ∧
    ∀ error, (installedVersion (.ofCommand host command)).result = .error error →
      ∃ message, error = .queryFailed command.display message ∧
        QueryComplaint (host command) message := by
  refine ⟨fun version => installedVersion_eq_ok_iff, ?_, ?_⟩
  · intro other child otherChild started otherStarted sameOutput version
    simp [installedVersion_eq_ok_iff, started, otherStarted, sameOutput]
  · intro error failed
    rcases installedVersion_cases host command with
      ⟨child, version, _, _, result⟩ | ⟨message, complaint, _, result⟩
    · simp [result] at failed
    · rw [result] at failed
      cases failed
      exact ⟨message, rfl, complaint⟩

/-- A failing child and one ended by a signal report the same version, and the complaint of a failing
child that reports none is passed on. -/
theorem installedVersion_exit_status_secondary_go :
    let command : CommandLine := ⟨"go", ["version"]⟩
    let host (status : ExitStatus) (output : String) : Host := fun _ =>
      .ok ⟨status, Text.Utf8.encode output.toList, Text.Utf8.encode " oops\n".toList⟩
    let asked status output := (installedVersion (.ofCommand (host status output) command)).result
    asked (.exited 1) "go version go1.21\n" = .ok "go1.21" ∧
      asked .signaled "go version go1.21\n" = .ok "go1.21" ∧
      asked (.exited 2) "go\n" =
        .error (.queryFailed "go version" "exited with code 2: oops") ∧
      QueryComplaint (host (.exited 2) "go\n" command) "exited with code 2: oops" := by
  intro command host asked
  have failing := installedVersion_exit_status_secondary
    (host (.exited 1) "go version go1.21\n") command
  have silent := installedVersion_exit_status_secondary (host (.exited 2) "go\n") command
  have version : asked (.exited 1) "go version go1.21\n" = .ok "go1.21" :=
    (failing.1 "go1.21").mpr ⟨_, rfl, rfl⟩
  have error : asked (.exited 2) "go\n" =
      .error (.queryFailed "go version" "exited with code 2: oops") := rfl
  refine ⟨version, ?_, error, ?_⟩
  · exact (failing.2.1 (host .signaled _) _ _ rfl rfl rfl "go1.21").mp version
  · obtain ⟨message, same, complaint⟩ := silent.2.2 _ error
    cases same
    exact complaint

end VersionGate
