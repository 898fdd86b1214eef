import VersionGate.Proofs.Presentation
import VersionGate.Proofs.QueryCommand
import VersionGate.Proofs.VersionLine.Rejection

/-!
The line in which a run reports its error.

A run that is left undecided says so once and last. The message is made of what the command line gives, of
words that a child has printed, of its first line in quotes, and of descriptions of faults, none of which
brings a line feed with it. The one part that is passed on as it was written is the complaint of a child
that failed without a version, and a complaint of several lines makes a message of several lines.
-/

namespace VersionGate

open Cli

/-- A text without a line feed. -/
def SingleLine (text : String) : Prop :=
  '\n' ∉ text.toList

instance (text : String) : Decidable (SingleLine text) :=
  inferInstanceAs (Decidable (¬ _))

section SingleLine

variable {first second separator : String} {parts : List String}

@[simp] theorem singleLine_append :
    SingleLine (first ++ second) ↔ SingleLine first ∧ SingleLine second := by
  simp [SingleLine]

theorem SingleLine.intercalate (apart : SingleLine separator)
    (single : ∀ part ∈ parts, SingleLine part) : SingleLine (separator.intercalate parts) := by
  induction parts with
  | nil => simp [SingleLine]
  | cons part rest ih =>
      have front := single part (by simp)
      have later := ih fun other member => single other (by simp [member])
      cases rest with
      | nil => simpa using front
      | cons next rest =>
          rw [String.intercalate_cons_cons]
          simp [front, apart, later]

theorem singleLine_of_isWord {word : String} (isWord : Text.IsWord word.toList) : SingleLine word :=
  isWord.noFeed

theorem singleLine_of_bytes {text : String} (absent : 0x0A ∉ text.toByteArray.data.toList) :
    SingleLine text := by
  rw [← Text.Utf8.encode_toList] at absent
  exact fun member => absent (List.mem_flatMap.mpr ⟨'\n', member, by decide⟩)

theorem singleLine_nat (n : Nat) : SingleLine (toString n) := by
  unfold SingleLine
  rw [Nat.toString_eq_repr, Nat.toList_repr]
  intro member
  have digit := Nat.isDigit_of_mem_toDigits (by decide) (by decide) member
  simp at digit

theorem singleLine_int (n : Int) : SingleLine (toString n) := by
  cases n with
  | ofNat n => exact singleLine_nat n
  | negSucc n =>
      change SingleLine ("-" ++ toString (n + 1))
      exact singleLine_append.mpr ⟨by decide, singleLine_nat (n + 1)⟩

end SingleLine

theorem systemErrorText_singleLine (code : Int) : SingleLine (systemErrorText code) := by
  -- The table is searched byte by byte: the kernel is slow to decode its texts.
  have described : ∀ entry ∈ systemErrors, 0x0A ∉ entry.2.toByteArray.data.toList := by
    decide +kernel
  unfold systemErrorText
  cases found : systemErrors.lookup code with
  | none => exact singleLine_append.mpr ⟨by decide +kernel, singleLine_int code⟩
  | some text =>
      obtain ⟨before, after, split, -⟩ := List.lookup_eq_some_iff.mp found
      exact singleLine_of_bytes (described (code, text) (by simp [split]))

theorem IoFault.singleLine_system (code : Int) : SingleLine (system code).text := by
  have named : SingleLine (systemErrorText code ++ " (os error ") :=
    singleLine_append.mpr ⟨systemErrorText_singleLine code, by decide⟩
  have numbered := singleLine_append.mpr ⟨named, singleLine_int code⟩
  exact singleLine_append.mpr ⟨numbered, by decide⟩

theorem ExitStatus.singleLine_text (status : ExitStatus) : SingleLine status.text := by
  cases status with
  | exited code => exact singleLine_nat code.toNat
  | signaled => decide

theorem CommandLine.OfWords.singleLine_display {command : CommandLine} (ofWords : command.OfWords) :
    SingleLine command.display := by
  have parts : ∀ part ∈ command.words, SingleLine part := by
    rintro part member
    rcases List.mem_cons.mp member with rfl | member
    · exact singleLine_of_isWord ofWords.program
    · exact singleLine_of_isWord (ofWords.args part member)
  exact SingleLine.intercalate (by decide) parts

/-- What became of a child leaves no single line to report: the child failed without a version and complained
in several lines, or it was not started and the reason takes several lines. -/
inductive BreaksLine : Except IoFault Child → Prop where
  | fault {text : String} (broken : ¬ SingleLine text) : BreaksLine (.error (.described text))
  | complaint {child : Child} {reason : VersionLineError} (unsuccessful : child.status ≠ .exited 0)
      (unread : reportedVersion (outputText child.stdout) = .error reason)
      (broken : '\n' ∈ Text.trim (outputText child.stderr).toList) : BreaksLine (.ok child)

theorem breaksLine_ok_iff {child : Child} : BreaksLine (.ok child) ↔
    child.status ≠ .exited 0 ∧ (∃ reason, reportedVersion (outputText child.stdout) = .error reason) ∧
      '\n' ∈ Text.trim (outputText child.stderr).toList := by
  constructor
  · rintro (_ | ⟨unsuccessful, unread, broken⟩)
    exact ⟨unsuccessful, ⟨_, unread⟩, broken⟩
  · rintro ⟨unsuccessful, ⟨reason, unread⟩, broken⟩
    exact .complaint unsuccessful unread broken

theorem QueryComplaint.singleLine_iff {reply : Except IoFault Child} {message : String}
    (complaint : QueryComplaint reply message) : SingleLine message ↔ ¬ BreaksLine reply := by
  cases complaint with
  | notStarted fault =>
      have opening : SingleLine "IO error: " := by decide
      cases fault with
      | system code => simpa [opening, IoFault.singleLine_system] using nofun
      | described text =>
          rw [singleLine_append, and_iff_right opening]
          refine ⟨fun single breaks => ?_, fun whole => ?_⟩
          · cases breaks with
            | fault broken => exact broken single
          · by_contra broken
            exact whole (.fault broken)
  | @failed child reason core unsuccessful unread trimmed =>
      have opening : SingleLine "exited with code " := by decide
      have colon : SingleLine ": " := by decide
      have said : SingleLine (if core = [] then "" else ": " ++ String.ofList core) ↔ '\n' ∉ core := by
        split
        · rename_i empty
          simp [empty, SingleLine]
        · rw [singleLine_append, and_iff_right colon, SingleLine, String.toList_ofList]
      rw [singleLine_append, singleLine_append, said, breaksLine_ok_iff, trimmed.trim_eq]
      simp [opening, child.status.singleLine_text, unsuccessful, unread]
  | @unread child reason successful unread =>
      have single : SingleLine reason.message := reason.message_noFeed
      simp [single, breaksLine_ok_iff, successful]

theorem GateError.singleLine_queryFailed {named message : String} :
    SingleLine (queryFailed named message).message ↔ SingleLine named ∧ SingleLine message := by
  have opening : SingleLine "Toolchain query `" := by decide +kernel
  have between : SingleLine "` failed: " := by decide +kernel
  change SingleLine ("Toolchain query `" ++ named ++ "` failed: " ++ message) ↔ _
  rw [singleLine_append, singleLine_append, singleLine_append, and_iff_right opening,
    and_iff_left between]

namespace Cli.CheckOptions

variable {options : CheckOptions} {host : Host} {suffix version : String} {error : GateError}

/-- What a check is told holds no line feed. -/
structure Unbroken (options : CheckOptions) : Prop where
  minVersion : ∀ suffix, options.minVersion = some suffix → SingleLine suffix
  toolchain : SingleLine options.toolchain
  query : ∀ query, options.query = some query → SingleLine query

theorem Unbroken.of_version (single : SingleLine suffix) :
    ({ minVersion := some suffix } : CheckOptions).Unbroken where
  minVersion other given := by
    cases given
    exact single
  toolchain := (by decide : SingleLine defaultToolchain)
  query := nofun

/-- The query command of a check leaves no single line to report. -/
def QueryBreaksLine (options : CheckOptions) (host : Host) : Prop :=
  ∃ command, CommandLine.parse? options.queryCommand = some command ∧ BreaksLine (host command)

theorem queryBreaksLine_iff {command : CommandLine}
    (spelt : CommandLine.parse? options.queryCommand = some command) :
    options.QueryBreaksLine host ↔ BreaksLine (host command) := by
  constructor
  · rintro ⟨other, otherSpelt, breaks⟩
    cases spelt.symm.trans otherSpelt
    exact breaks
  · exact fun breaks => ⟨command, spelt, breaks⟩

theorem not_queryBreaksLine_of_blank (missing : options.queryWords = []) :
    ¬ options.QueryBreaksLine host := by
  rintro ⟨command, spelt, -⟩
  exact queryWords_ne_nil_of_parse? spelt missing

theorem Reports.not_queryBreaksLine (reported : options.Reports host version) :
    ¬ options.QueryBreaksLine host := by
  obtain ⟨command, child, spelt, started, read⟩ := reported
  rw [queryBreaksLine_iff spelt, started, breaksLine_ok_iff]
  rintro ⟨-, ⟨reason, unread⟩, -⟩
  rw [read] at unread
  cases unread

theorem Reports.singleLine (reported : options.Reports host version) : SingleLine version := by
  obtain ⟨_, _, _, _, read⟩ := reported
  exact singleLine_of_isWord (isWord_of_reportedVersion read)

/-- The message of a check that is left undecided takes one line exactly if the child leaves it one. -/
theorem Unbroken.singleLine_message_iff (unbroken : options.Unbroken)
    (wanted : options.minVersion = some suffix)
    (failed : options.finding host none suffix = .error error) :
    SingleLine error.message ↔ ¬ options.QueryBreaksLine host := by
  rcases finding_error_cases failed with ⟨missing, rfl⟩ |
    ⟨command, message, spelt, complaint, rfl⟩ | ⟨version, installed, reported, isEither, rfl⟩
  · obtain ⟨query, given, -⟩ := queryWords_eq_nil_iff.mp missing
    have named : SingleLine options.queryCommand := by
      simpa [queryCommand, given] using unbroken.query query given
    exact iff_of_true (GateError.singleLine_queryFailed.mpr ⟨named, by decide⟩)
      (not_queryBreaksLine_of_blank missing)
  · have named := (CommandLine.ofWords_of_parse? spelt).singleLine_display
    rw [GateError.singleLine_queryFailed, and_iff_right named, complaint.singleLine_iff,
      queryBreaksLine_iff spelt]
  · have single : SingleLine version := by
      rcases isEither with rfl | rfl
      · exact reported.singleLine
      · exact singleLine_append.mpr ⟨unbroken.toolchain, unbroken.minVersion suffix wanted⟩
    exact iff_of_true (singleLine_append.mpr ⟨by decide, single⟩) reported.not_queryBreaksLine

end Cli.CheckOptions

/-- A terminal writes an error as a line of its own, with nothing around it that would break it. -/
theorem singleLine_errorLine {text : String} (colors styling : Bool) :
    SingleLine ((Ui.Theme.ofColors colors).errorLine styling text) ↔ SingleLine text := by
  have icon : SingleLine "✗ " := by decide
  have red : SingleLine "\x1b[31m\x1b[1m" := by decide
  have off : SingleLine "\x1b[0m" := by decide
  cases colors <;> cases styling <;>
    simp [Ui.Theme.ofColors, Ui.Theme.errorLine, Ui.Theme.colored, Ui.Theme.plain, Ui.Style.plain,
      Ui.Style.apply, Ui.Style.sequence, icon, red, off]

namespace Cli.Invocation

variable {invocation : Invocation} {host : Host} {mode : Ui.Mode}

/-- A run with the code 3 is a check that found an error, and it ends with the message of this error. -/
theorem error_of_run (undecided : (invocation.run host mode).2 = 3) :
    ∃ suffix error, invocation.check.minVersion = some suffix ∧
      invocation.check.finding host none suffix = .error error ∧
      (invocation.run host mode).1 =
        (invocation.dispatch host mode).events ++ [.say ⟨.error, error.message⟩] ∧
      ∀ call ∈ calls (invocation.dispatch host mode).events,
        call.channel = .message ∨ call.channel = .detail := by
  cases chosen : invocation.completions with
  | some shell =>
      rw [run_of_completions chosen] at undecided
      cases undecided
  | none =>
      cases wanted : invocation.check.minVersion with
      | none =>
          rw [run_of_no_version chosen wanted] at undecided
          cases undecided
      | some suffix =>
          have result : (invocation.dispatch host mode).result = _ := dispatch_result chosen wanted
          have said : calls (invocation.dispatch host mode).events = _ := calls_dispatch chosen wanted
          rw [code_run chosen wanted] at undecided
          cases found : invocation.check.finding host none suffix with
          | ok report =>
              rw [found] at undecided
              cases satisfied : report.satisfied <;> simp [satisfied] at undecided
          | error error =>
              -- A missed finding adds nothing to the opening of a check but the error itself.
              rw [found] at result said
              refine ⟨suffix, error, rfl, found, ?_, fun call member => ?_⟩
              · rw [run_of_error result]
              · rw [said, CheckOptions.endingCalls_error, List.append_nil] at member
                exact CheckOptions.channel_of_opening member

end Cli.Invocation

/-- How a run that is told nothing with a line feed reports its error. The message is said once and last, and
nothing before it is more than an announcement. It takes one line on a terminal exactly if its text does, and
its text does unless the query command complains in several lines and reports no version. -/
theorem error_line_single_iff (invocation : Invocation) (host : Host) (mode : Ui.Mode)
    (unbroken : invocation.check.Unbroken) (undecided : (invocation.run host mode).2 = 3) :
    ∃ earlier text, (invocation.run host mode).1 = earlier ++ [.say ⟨.error, text⟩] ∧
      (∀ call ∈ calls earlier, call.channel = .message ∨ call.channel = .detail) ∧
      (SingleLine text ↔ ¬ invocation.check.QueryBreaksLine host) ∧
      ∀ surroundings noColor, ∃ line,
        (Ui.Terminal.ofProcess surroundings mode noColor).write ⟨.error, text⟩ = .errLine line ∧
          (SingleLine line ↔ SingleLine text) := by
  obtain ⟨suffix, error, wanted, failed, ended, announced⟩ := Invocation.error_of_run undecided
  refine ⟨_, error.message, ended, announced, unbroken.singleLine_message_iff wanted failed, ?_⟩
  intro surroundings noColor
  exact ⟨_, rfl, singleLine_errorLine ..⟩

/-- A child that succeeds without a version is quoted by its first line, and what it complained of in two
lines is left out, so that the message takes one line. -/
theorem error_line_single_iff_quoted :
    let invocation : Invocation := { check := { minVersion := some "1.20" } }
    let child : Child := ⟨.exited 0, Text.Utf8.encode "go\nversion\n".toList,
      Text.Utf8.encode "first\nsecond\n".toList⟩
    let run := invocation.run (fun _ => .ok child) .normal
    ∃ earlier text, run.1 = earlier ++ [.say ⟨.error, text⟩] ∧ SingleLine text := by
  intro invocation child run
  have unbroken : invocation.check.Unbroken := .of_version (by decide)
  have whole : ¬ invocation.check.QueryBreaksLine fun _ => .ok child := by
    rintro ⟨_, -, breaks⟩
    exact (breaksLine_ok_iff.mp breaks).1 rfl
  obtain ⟨earlier, text, ended, _, single, _⟩ := error_line_single_iff invocation (fun _ => .ok child)
    .normal unbroken (by decide +kernel)
  exact ⟨earlier, text, ended, single.mpr whole⟩

/-- A child that fails and complains in two lines has its complaint passed on in two lines. -/
theorem error_line_broken_by_complaint :
    ¬ ∀ (invocation : Invocation) (host : Host) (mode : Ui.Mode), invocation.check.Unbroken →
      (invocation.run host mode).2 = 3 → ∃ earlier text,
        (invocation.run host mode).1 = earlier ++ [.say ⟨.error, text⟩] ∧ SingleLine text := by
  intro always
  let invocation : Invocation := { check := { minVersion := some "1.20" } }
  let child : Child := ⟨.exited 2, [],
    Text.Utf8.encode "cannot find GOROOT\ngiving up\n".toList⟩
  have unbroken : invocation.check.Unbroken := .of_version (by decide)
  obtain ⟨earlier, text, ended, single⟩ :=
    always invocation (fun _ => .ok child) .normal unbroken (by decide +kernel)
  have last : (invocation.run (fun _ => .ok child) .normal).1.getLast? =
      some (.say ⟨.error, "Toolchain query `go version` failed: exited with code 2: " ++
        "cannot find GOROOT\ngiving up"⟩) := by decide +kernel
  rw [ended, List.getLast?_concat] at last
  cases last
  exact absurd single (by decide +kernel)

end VersionGate
