import VersionGate.Process
import VersionGate.Proofs.Check

/-!
What the exit code of a run stands for.

A check against a required version ends in one of two ways: its query reports a version that stands in
an order to the required one, or the check is left undecided. The code tells these apart, and the
errors that would share a code with a version that is too low never get this far.
-/

namespace VersionGate

open Cli

variable {host : Host} {mode : Ui.Mode} {suffix version : String} {code : UInt8} {error : GateError}

/-- The errors of a check that is left undecided. -/
inductive GateError.FromCheck : GateError → Prop where
  | queryFailed (command message : String) : FromCheck (.queryFailed command message)
  | unrecognizedVersion (version : String) : FromCheck (.unrecognizedVersion version)

theorem GateError.FromCheck.exitCode_eq (reported : error.FromCheck) : error.exitCode = 3 := by
  cases reported <;> rfl

namespace Cli.CheckOptions

variable {options : CheckOptions}

/-- The query command of a check can be started, and its output reports a version. -/
def Reports (options : CheckOptions) (host : Host) (version : String) : Prop :=
  ∃ command child, CommandLine.parse? options.queryCommand = some command ∧
    host command = .ok child ∧ reportedVersion (outputText child.stdout) = .ok version

/-- The reported version of a check stands in an order to the required one. -/
def Finds (options : CheckOptions) (host : Host) (suffix : String) (ordering : Ordering) : Prop :=
  ∃ version, options.Reports host version ∧
    options.compare.order version (options.toolchain ++ suffix) options.toolchain = .ok ordering

/-- The ways in which a check can be left undecided. -/
inductive Undecided (options : CheckOptions) (host : Host) (suffix : String) : Prop where
  | blankQuery (blank : ∀ c ∈ options.queryCommand.toList, Text.isBlank c = true)
  | notStarted {command : CommandLine} {fault : IoFault}
      (parsed : CommandLine.parse? options.queryCommand = some command)
      (refused : host command = .error fault)
  | noVersion {command : CommandLine} {child : Child} {reason : VersionLineError}
      (parsed : CommandLine.parse? options.queryCommand = some command)
      (started : host command = .ok child)
      (unread : reportedVersion (outputText child.stdout) = .error reason)
  | unrecognized {version : String} (reported : options.Reports host version)
      (numeric : options.compare = .numeric)
      (foreign : components? version options.toolchain = none ∨
        components? (options.toolchain ++ suffix) options.toolchain = none)

theorem Reports.unique {other : String} (reported : options.Reports host version)
    (again : options.Reports host other) : version = other := by
  obtain ⟨command, child, parsed, started, read⟩ := reported
  obtain ⟨otherCommand, otherChild, otherParsed, otherStarted, otherRead⟩ := again
  cases parsed.symm.trans otherParsed
  cases started.symm.trans otherStarted
  cases read.symm.trans otherRead
  rfl

theorem Finds.unique {ordering other : Ordering} (found : options.Finds host suffix ordering)
    (again : options.Finds host suffix other) : ordering = other := by
  obtain ⟨version, reported, ordered⟩ := found
  obtain ⟨otherVersion, otherReported, otherOrdered⟩ := again
  cases reported.unique otherReported
  cases ordered.symm.trans otherOrdered
  rfl

theorem Finds.not_undecided {ordering : Ordering} (found : options.Finds host suffix ordering) :
    ¬ options.Undecided host suffix := by
  obtain ⟨version, ⟨command, child, parsed, started, read⟩, ordered⟩ := found
  intro undecided
  cases undecided with
  | blankQuery blank =>
      rw [CommandLine.parse?_eq_none_iff.mpr blank] at parsed
      cases parsed
  | notStarted otherParsed refused =>
      cases parsed.symm.trans otherParsed
      rw [started] at refused
      cases refused
  | noVersion otherParsed otherStarted unread =>
      cases parsed.symm.trans otherParsed
      cases started.symm.trans otherStarted
      rw [read] at unread
      cases unread
  | unrecognized reported numeric foreign =>
      cases reported.unique ⟨command, child, parsed, started, read⟩
      rw [numeric] at ordered
      exact order_numeric_ne_ok foreign ordered

theorem installedVersion_eq_ok_iff_reports {command : CommandLine}
    (parsed : CommandLine.parse? options.queryCommand = some command) :
    (installedVersion (.ofCommand host command)).result = .ok version ↔
      options.Reports host version := by
  rw [installedVersion_eq_ok_iff]
  constructor
  · rintro ⟨child, started, read⟩
    exact ⟨command, child, parsed, started, read⟩
  · rintro ⟨other, child, otherParsed, started, read⟩
    cases parsed.symm.trans otherParsed
    exact ⟨child, started, read⟩

theorem undecided_of_query_failed {command : CommandLine}
    (parsed : CommandLine.parse? options.queryCommand = some command)
    (failed : (installedVersion (.ofCommand host command)).result = .error error) :
    options.Undecided host suffix ∧ error.FromCheck := by
  rcases installedVersion_cases host command with
    ⟨child, version, _, _, asked⟩ | ⟨message, _, unread, asked⟩
  · rw [asked] at failed
    cases failed
  rw [asked] at failed
  cases failed
  refine ⟨?_, .queryFailed command.display message⟩
  cases reply : host command with
  | error fault => exact .notStarted parsed reply
  | ok child =>
      obtain ⟨reason, unread⟩ := unread child reply
      exact .noVersion parsed reply unread

theorem check_cases (host : Host) (mode : Ui.Mode) (wanted : options.minVersion = some suffix) :
    (∃ ordering, options.Finds host suffix ordering ∧
      (options.check host mode none).result =
        .ok (if ordering = .lt then .failed 1 else .passed)) ∨
    ∃ error, options.Undecided host suffix ∧ error.FromCheck ∧
      (options.check host mode none).result = .error error := by
  cases parsed : CommandLine.parse? options.queryCommand with
  | none =>
      have blank := CommandLine.parse?_eq_none_iff.mp parsed
      exact .inr ⟨_, .blankQuery blank, .queryFailed _ _,
        congrArg Run.result (check_of_blank wanted parsed)⟩
  | some command =>
      rw [check_of_command wanted parsed, check_of_given wanted]
      rcases options.gate.check_cases suffix (.ofCommand host command) with
        ⟨error, asked, failed⟩ | ⟨version, error, asked, disordered, failed⟩ |
          ⟨version, ordering, asked, ordered, reached⟩
      · obtain ⟨undecided, reported⟩ := undecided_of_query_failed parsed asked
        refine .inr ⟨error, undecided, reported, ?_⟩
        rw [checkSource_of_error failed]
      · have reports := (installedVersion_eq_ok_iff_reports parsed).mp asked
        obtain ⟨numeric, foreign, unread, _, rfl⟩ := order_error_cases disordered
        refine .inr ⟨_, .unrecognized reports numeric foreign, .unrecognizedVersion unread, ?_⟩
        rw [checkSource_of_error failed]
      · have reports := (installedVersion_eq_ok_iff_reports parsed).mp asked
        refine .inl ⟨ordering, ⟨version, reports, ordered⟩, ?_⟩
        rw [checkSource_of_report reached]
        cases ordering <;> rfl

/-- What the exit code of a check against a required version says. -/
structure CodeMeans (options : CheckOptions) (host : Host) (suffix : String) (code : UInt8) :
    Prop where
  known : code = 0 ∨ code = 1 ∨ code = 3
  tooLow : code = 1 ↔ options.Finds host suffix .lt
  satisfied : code = 0 ↔ ∃ ordering, ordering ≠ .lt ∧ options.Finds host suffix ordering
  undecided : code = 3 ↔ options.Undecided host suffix

theorem CodeMeans.of_lt (found : options.Finds host suffix .lt) :
    options.CodeMeans host suffix 1 where
  known := .inr (.inl rfl)
  tooLow := iff_of_true rfl found
  satisfied := by
    refine iff_of_false (by decide) ?_
    rintro ⟨ordering, atLeast, again⟩
    exact atLeast (again.unique found)
  undecided := iff_of_false (by decide) found.not_undecided

theorem CodeMeans.of_not_lt {ordering : Ordering} (found : options.Finds host suffix ordering)
    (atLeast : ordering ≠ .lt) : options.CodeMeans host suffix 0 where
  known := .inl rfl
  tooLow := iff_of_false (by decide) fun low => atLeast (found.unique low)
  satisfied := iff_of_true rfl ⟨ordering, atLeast, found⟩
  undecided := iff_of_false (by decide) found.not_undecided

theorem CodeMeans.of_undecided (undecided : options.Undecided host suffix) :
    options.CodeMeans host suffix 3 where
  known := .inr (.inr rfl)
  tooLow := iff_of_false (by decide) fun low => low.not_undecided undecided
  satisfied := by
    refine iff_of_false (by decide) ?_
    rintro ⟨ordering, _, found⟩
    exact found.not_undecided undecided
  undecided := iff_of_true rfl undecided

end Cli.CheckOptions

namespace Cli.Invocation

variable {invocation : Invocation} {outcome : Outcome}

theorem dispatch_of_completions {shell : Shell} (chosen : invocation.completions = some shell) :
    invocation.dispatch host mode =
      ⟨[.say ⟨.data, shell.completionScript⟩], .ok .passed⟩ := by
  simp only [dispatch, chosen]
  rfl

theorem dispatch_of_check (plain : invocation.completions = none) :
    invocation.dispatch host mode = invocation.check.check host mode none := by
  simp only [dispatch, plain]

theorem run_of_outcome (done : (invocation.dispatch host mode).result = .ok outcome) :
    invocation.run host mode = ((invocation.dispatch host mode).events, outcome.exitCode) := by
  simp only [run, done]

theorem run_of_error (failed : (invocation.dispatch host mode).result = .error error) :
    invocation.run host mode =
      ((invocation.dispatch host mode).events ++ [.say ⟨.error, error.message⟩],
        error.exitCode) := by
  simp only [run, failed]

theorem launchCount_run (invocation : Invocation) (host : Host) (mode : Ui.Mode) :
    launchCount (invocation.run host mode).1 =
      launchCount (invocation.dispatch host mode).events := by
  cases ending : (invocation.dispatch host mode).result with
  | ok outcome => rw [run_of_outcome ending]
  | error error => simp [run_of_error ending]

theorem launchCount_run_le_one (invocation : Invocation) (host : Host) (mode : Ui.Mode) :
    launchCount (invocation.run host mode).1 ≤ 1 := by
  rw [launchCount_run]
  cases chosen : invocation.completions with
  | some shell => simp [dispatch_of_completions chosen]
  | none =>
      rw [dispatch_of_check chosen, CheckOptions.launchCount_check]
      split <;> decide

theorem run_of_completions {shell : Shell} (chosen : invocation.completions = some shell) :
    invocation.run host mode = ([.say ⟨.data, shell.completionScript⟩], 0) := by
  have dispatched : invocation.dispatch host mode = _ := dispatch_of_completions chosen
  rw [run_of_outcome (congrArg Run.result dispatched), dispatched]
  rfl

theorem run_of_no_version (plain : invocation.completions = none)
    (missing : invocation.check.minVersion = none) :
    invocation.run host mode = ([.say ⟨.failure, GateError.missingArgument.message⟩], 2) := by
  have dispatched : invocation.dispatch host mode = _ :=
    (dispatch_of_check plain).trans (CheckOptions.check_of_no_version missing)
  rw [run_of_outcome (congrArg Run.result dispatched), dispatched]
  rfl

theorem run_codeMeans (plain : invocation.completions = none)
    (wanted : invocation.check.minVersion = some suffix) :
    invocation.check.CodeMeans host suffix (invocation.run host mode).2 := by
  rcases CheckOptions.check_cases host mode wanted with
    ⟨ordering, found, done⟩ | ⟨error, undecided, reported, failed⟩
  · rw [← dispatch_of_check plain] at done
    rw [run_of_outcome done]
    by_cases low : ordering = .lt
    · subst low
      exact .of_lt found
    · rw [if_neg low]
      exact .of_not_lt found low
  · rw [← dispatch_of_check plain] at failed
    rw [run_of_error failed, reported.exitCode_eq]
    exact .of_undecided undecided

/-- No error of the operating system and no error from outside comes out of a run as such. -/
theorem fromCheck_of_dispatch_error
    (failed : (invocation.dispatch host mode).result = .error error) : error.FromCheck := by
  cases chosen : invocation.completions with
  | some shell =>
      rw [dispatch_of_completions chosen] at failed
      cases failed
  | none =>
      rw [dispatch_of_check chosen] at failed
      cases wanted : invocation.check.minVersion with
      | none =>
          rw [CheckOptions.check_of_no_version wanted] at failed
          cases failed
      | some suffix =>
          rcases CheckOptions.check_cases host mode wanted with
            ⟨ordering, _, done⟩ | ⟨other, _, reported, same⟩
          · rw [done] at failed
            cases failed
          · rw [same] at failed
            cases failed
            exact reported

theorem run_code_ne_usage (invocation : Invocation) (host : Host) (mode : Ui.Mode) :
    (invocation.run host mode).2 ≠ UsageError.exitCode := by
  cases chosen : invocation.completions with
  | some shell =>
      simp [run_of_completions chosen, UsageError.exitCode]
  | none =>
      cases wanted : invocation.check.minVersion with
      | none =>
          simp [run_of_no_version chosen wanted, UsageError.exitCode]
      | some suffix =>
          have meaning : CheckOptions.CodeMeans _ host suffix (invocation.run host mode).2 :=
            run_codeMeans chosen wanted
          rcases meaning.known with code | code | code <;> rw [code] <;> decide

end Cli.Invocation

section Process

variable {environment : Environment} {clock : Log.Clock} {commandLine : List String}

theorem runProcess_code_of_invocation {invocation : Invocation}
    (parsed : Invocation.parse environment commandLine.tail = .ok invocation) :
    (runProcess host environment clock commandLine).code =
      (invocation.run host invocation.mode).2 := by
  simp only [runProcess, parsed]

theorem runProcess_code_of_usage {error : UsageError}
    (refused : Invocation.parse environment commandLine.tail = .error (.usage error)) :
    (runProcess host environment clock commandLine).code = 64 := by
  simp only [runProcess, refused]
  rfl

theorem runProcess_code_of_inquiry {halt : Halt}
    (halted : Invocation.parse environment commandLine.tail = .error halt)
    (inquiry : halt = .version ∨ ∃ detailed, halt = .help detailed) :
    (runProcess host environment clock commandLine).code = 0 := by
  rcases inquiry with rfl | ⟨detailed, rfl⟩ <;> simp only [runProcess, halted]

/-- A process that does not get past its command line leaves the host alone. -/
theorem runProcess_of_halt {halt : Halt}
    (halted : Invocation.parse environment commandLine.tail = .error halt) (other : Host) :
    runProcess host environment clock commandLine =
      runProcess other environment clock commandLine := by
  cases halt <;> simp only [runProcess, halted]

theorem runProcess_code_eq_usage_iff :
    (runProcess host environment clock commandLine).code = 64 ↔
      ∃ error, Invocation.parse environment commandLine.tail = .error (.usage error) := by
  constructor
  · intro code
    cases parsed : Invocation.parse environment commandLine.tail with
    | ok invocation =>
        rw [runProcess_code_of_invocation parsed] at code
        exact absurd code (invocation.run_code_ne_usage host invocation.mode)
    | error halt =>
        cases halt with
        | usage error => exact ⟨error, rfl⟩
        | help detailed =>
            rw [runProcess_code_of_inquiry parsed (.inr ⟨detailed, rfl⟩)] at code
            exact absurd code (by decide)
        | version =>
            rw [runProcess_code_of_inquiry parsed (.inl rfl)] at code
            exact absurd code (by decide)
  · rintro ⟨error, refused⟩
    exact runProcess_code_of_usage refused

end Process

/-- The exit code of a run, over all invocations, all answers of the host and all output modes. A
completion script gives 0, a missing version 2, and neither starts a child. A check against a version
gives 1 or 0 by the order that it finds, 3 if it is left undecided, and starts one child at most; no
other error ever reaches the code. A process gives 64 for a usage error alone and 0 for help, and the
host has no part in either. -/
theorem exit_code_classified (host : Host) :
    (∀ (invocation : Invocation) (mode : Ui.Mode), let run := invocation.run host mode
      (invocation.completions.isSome = true → run.2 = 0 ∧ launchCount run.1 = 0) ∧
      (invocation.completions = none →
        (run.2 = 2 ↔ invocation.check.minVersion = none) ∧
        (invocation.check.minVersion = none → launchCount run.1 = 0) ∧
        ∀ suffix, invocation.check.minVersion = some suffix →
          invocation.check.CodeMeans host suffix run.2) ∧
      launchCount run.1 ≤ 1 ∧
      ∀ error, (invocation.dispatch host mode).result = .error error → error.FromCheck) ∧
    ∀ (environment : Environment) (clock : Log.Clock) (commandLine : List String),
      let parsed := Invocation.parse environment commandLine.tail
      let exit := runProcess host environment clock commandLine
      (exit.code = 64 ↔ ∃ error, parsed = .error (.usage error)) ∧
      (parsed = .error .version ∨ (∃ detailed, parsed = .error (.help detailed)) →
        exit.code = 0) ∧
      (∀ halt, parsed = .error halt →
        ∀ other, exit = runProcess other environment clock commandLine) ∧
      ∀ invocation, parsed = .ok invocation →
        exit.code = (invocation.run host invocation.mode).2 := by
  refine ⟨fun invocation mode => ⟨?_, ?_, ?_, ?_⟩, fun environment clock commandLine => ?_⟩
  · intro given
    obtain ⟨shell, chosen⟩ := Option.isSome_iff_exists.mp given
    simp [Invocation.run_of_completions chosen]
  · intro plain
    refine ⟨?_, fun missing => by simp [Invocation.run_of_no_version plain missing],
      fun suffix wanted => Invocation.run_codeMeans plain wanted⟩
    cases wanted : invocation.check.minVersion with
    | none => simp [Invocation.run_of_no_version plain wanted]
    | some suffix =>
        have meaning : CheckOptions.CodeMeans _ host suffix (invocation.run host mode).2 :=
          Invocation.run_codeMeans plain wanted
        rcases meaning.known with code | code | code <;> simp [code]
  · exact invocation.launchCount_run_le_one host mode
  · exact fun error failed => Invocation.fromCheck_of_dispatch_error failed
  · refine ⟨runProcess_code_eq_usage_iff, ?_, fun halt halted => runProcess_of_halt halted,
      fun invocation parsed => runProcess_code_of_invocation parsed⟩
    rintro (halted | ⟨detailed, halted⟩)
    · exact runProcess_code_of_inquiry halted (.inl rfl)
    · exact runProcess_code_of_inquiry halted (.inr ⟨detailed, rfl⟩)

/-- With Go at 1.18, `toolgate 1.20` gives 1 although the query fails, `toolgate` alone gives 2, a blank
query 3, an unknown option 64, and a request for help or for the version 0. -/
theorem exit_code_classified_go :
    let host : Host := fun _ =>
      .ok ⟨.exited 1, Text.Utf8.encode "go version go1.18 linux/amd64\n".toList, []⟩
    let clock : Log.Clock := ⟨"", ""⟩
    let environment : Environment := fun _ => none
    let code (options : CheckOptions) := (Invocation.run { check := options } host .normal).2
    let processCode (words : List String) :=
      (runProcess host environment clock ("toolgate" :: words)).code
    code { minVersion := some "1.20" } = 1 ∧ code {} = 2 ∧
      code { minVersion := some "1.20", query := some " \t" } = 3 ∧
      processCode ["--unknown"] = 64 ∧
      (processCode ["--help"] = 0 ∧ processCode ["1.20", "-h"] = 0) ∧
      processCode ["-V"] = 0 ∧ processCode ["-q", "--version"] = 0 := by
  intro host clock environment code processCode
  obtain ⟨runs, processes⟩ := exit_code_classified host
  have checks (options : CheckOptions) := (runs { check := options } .normal).2.1 rfl
  have inquiries (words : List String) := (processes environment clock ("toolgate" :: words)).2.1
  refine ⟨?_, ?_, ?_, ?_, ⟨?_, ?_⟩, ?_, ?_⟩
  · refine ((checks { minVersion := some "1.20" }).2.2 "1.20" rfl).tooLow.mpr ?_
    exact ⟨"go1.18", ⟨⟨"go", ["version"]⟩, _, rfl, rfl, rfl⟩, rfl⟩
  · exact (checks {}).1.mpr rfl
  · exact ((checks { minVersion := some "1.20", query := some " \t" }).2.2 "1.20"
      rfl).undecided.mpr (.blankQuery (CommandLine.parse?_eq_none_iff.mp rfl))
  · exact (processes environment clock _).1.mpr ⟨.unknownOption "--unknown", rfl⟩
  · exact inquiries ["--help"] (.inr ⟨true, rfl⟩)
  · exact inquiries ["1.20", "-h"] (.inr ⟨false, rfl⟩)
  · exact inquiries ["-V"] (.inl rfl)
  · exact inquiries ["-q", "--version"] (.inl rfl)

end VersionGate
