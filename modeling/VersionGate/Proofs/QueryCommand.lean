import VersionGate.Proofs.ExitCode
import VersionGate.Proofs.Narration

namespace VersionGate

open Text

variable {text : String} {command : CommandLine}

def wordsOf (text : String) : List String :=
  (words text.toList).map String.ofList

theorem wordsOf_eq_nil_iff : wordsOf text = [] ↔ ∀ c ∈ text.toList, isBlank c = true := by
  rw [wordsOf, List.map_eq_nil_iff, words_eq_nil_iff]

/-- A word after a space is one more word, whatever stands before the space. -/
theorem wordsOf_append_word {word : String} (isWord : IsWord word.toList) (text : String) :
    wordsOf (text ++ " " ++ word) = wordsOf text ++ [word] := by
  have space : isBlank ' ' = true := by decide
  have split : (text ++ " " ++ word).toList = text.toList ++ ' ' :: word.toList := by simp
  rw [wordsOf, split, words_append_blank _ _ space, isWord.words_eq]
  simp [wordsOf]

namespace CommandLine

theorem parse?_eq_none_iff_wordsOf : parse? text = none ↔ wordsOf text = [] := by
  rw [parse?_eq_none_iff, wordsOf_eq_nil_iff]

theorem wordsOf_of_parse? (spelt : parse? text = some command) : command.words = wordsOf text := by
  rw [wordsOf, parse?_eq_some_iff.mp spelt]
  simp [Function.comp_def]

end CommandLine

theorem VersionLineError.head?_message_ne (reason : VersionLineError) :
    reason.message.toList.head? ≠ some 'q' := by
  cases reason with
  | noOutput => decide
  | unexpectedLine line =>
      change ("unexpected version line: " ++ Text.quote line).toList.head? ≠ some 'q'
      simp

/-- A complaint about a query that was asked is not the one about a query that is blank. -/
theorem QueryComplaint.ne_blank {reply : Except IoFault Child} {message : String}
    (complaint : QueryComplaint reply message) : message ≠ "query command is empty" := by
  -- The two differ in their first character.
  suffices other : message.toList.head? ≠ some 'q' by
    intro same
    simp [same] at other
  cases complaint with
  | notStarted fault => simp
  | failed unsuccessful unread trimmed => simp
  | @unread child reason successful unread => exact reason.head?_message_ne

namespace Cli.CheckOptions

variable {options : CheckOptions} {host : Host} {mode : Ui.Mode} {suffix named message : String}
  {error : GateError}

/-- The words of the query command of a check: those of the query if there is one, and otherwise those
of the toolchain name with the word `version` after them. -/
def queryWords (options : CheckOptions) : List String :=
  match options.query with
  | some query => wordsOf query
  | none => wordsOf options.toolchain ++ ["version"]

theorem wordsOf_queryCommand (options : CheckOptions) :
    wordsOf options.queryCommand = options.queryWords := by
  unfold queryCommand queryWords
  cases options.query with
  | some query => rfl
  | none =>
      have isWord : IsWord "version".toList := by decide
      have split : options.toolchain ++ " version" = options.toolchain ++ " " ++ "version" := by
        rw [String.append_assoc]
        rfl
      rw [Option.getD_none, split, wordsOf_append_word isWord]

/-- Only a query that is given can be blank; the default query has a word of its own. -/
theorem queryWords_eq_nil_iff : options.queryWords = [] ↔
    ∃ query, options.query = some query ∧ ∀ c ∈ query.toList, isBlank c = true := by
  unfold queryWords
  cases options.query with
  | some query => simp [wordsOf_eq_nil_iff]
  | none => simp

theorem parse?_queryCommand_eq_none_iff :
    CommandLine.parse? options.queryCommand = none ↔ options.queryWords = [] := by
  rw [CommandLine.parse?_eq_none_iff_wordsOf, wordsOf_queryCommand]

theorem words_of_parse?_queryCommand {command : CommandLine}
    (spelt : CommandLine.parse? options.queryCommand = some command) :
    command.words = options.queryWords := by
  rw [CommandLine.wordsOf_of_parse? spelt, wordsOf_queryCommand]

theorem display_of_parse?_queryCommand {command : CommandLine}
    (spelt : CommandLine.parse? options.queryCommand = some command) :
    command.display = " ".intercalate options.queryWords := by
  rw [CommandLine.display, words_of_parse?_queryCommand spelt]

theorem queryWords_ne_nil_of_parse? {command : CommandLine}
    (spelt : CommandLine.parse? options.queryCommand = some command) : options.queryWords ≠ [] := by
  intro empty
  rw [parse?_queryCommand_eq_none_iff.mpr empty] at spelt
  cases spelt

/-- The one command that a check runs has the words of its query command. -/
theorem map_words_launches_check (options : CheckOptions) (host : Host) (mode : Ui.Mode) :
    (launches (options.check host mode none).events).map CommandLine.words =
      if options.minVersion.isSome ∧ options.queryWords ≠ [] then [options.queryWords] else [] := by
  rw [launches_check]
  cases spelt : CommandLine.parse? options.queryCommand with
  | none => simp [parse?_queryCommand_eq_none_iff.mp spelt]
  | some command =>
      have some := queryWords_ne_nil_of_parse? spelt
      cases options.minVersion <;> simp [some, words_of_parse?_queryCommand spelt]

/-- The ways in which a check against a query command can fail. -/
inductive Failure (options : CheckOptions) (host : Host) : GateError → Prop where
  | blank (missing : options.queryWords = []) :
      Failure options host (.queryFailed options.queryCommand "query command is empty")
  | query {command : CommandLine} {message : String}
      (spelt : CommandLine.parse? options.queryCommand = some command)
      (complaint : QueryComplaint (host command) message) :
      Failure options host (.queryFailed command.display message)
  | unrecognized (version : String) : Failure options host (.unrecognizedVersion version)

/-- A finding is missed for one of three reasons, and a version that is not recognized is the one that
the query command reports, or else the required one. -/
theorem finding_error_cases (failed : options.finding host none suffix = .error error) :
    (options.queryWords = [] ∧
      error = .queryFailed options.queryCommand "query command is empty") ∨
    (∃ command message, CommandLine.parse? options.queryCommand = some command ∧
      QueryComplaint (host command) message ∧ error = .queryFailed command.display message) ∨
    ∃ version installed, options.Reports host installed ∧
      (version = installed ∨ version = options.toolchain ++ suffix) ∧
      error = .unrecognizedVersion version := by
  unfold finding asked Source.ofCommandText at failed
  cases spelt : CommandLine.parse? options.queryCommand with
  | none =>
      simp only [spelt, Except.bind] at failed
      cases failed
      exact .inl ⟨parse?_queryCommand_eq_none_iff.mp spelt, rfl⟩
  | some command =>
      simp only [spelt, Except.bind] at failed
      rcases options.gate.check_cases suffix (.ofCommand host command) with
        ⟨other, asked, same⟩ | ⟨installed, other, asked, disordered, same⟩ | ⟨_, _, _, _, reached⟩
      · rw [same] at failed
        cases failed
        rcases installedVersion_cases host command with
          ⟨_, _, _, _, answered⟩ | ⟨message, complaint, _, refused⟩
        · rw [answered] at asked
          cases asked
        · rw [refused] at asked
          cases asked
          exact .inr (.inl ⟨command, message, rfl, complaint, rfl⟩)
      · rw [same] at failed
        cases failed
        obtain ⟨_, _, version, isEither, rfl⟩ := order_error_cases disordered
        have reported := (installedVersion_eq_ok_iff_reports spelt).mp asked
        exact .inr (.inr ⟨version, installed, reported, isEither, rfl⟩)
      · rw [reached] at failed
        cases failed

theorem failure_of_finding (failed : options.finding host none suffix = .error error) :
    options.Failure host error := by
  rcases finding_error_cases failed with
    ⟨missing, rfl⟩ | ⟨command, message, spelt, complaint, rfl⟩ | ⟨version, _, _, _, rfl⟩
  · exact .blank missing
  · exact .query spelt complaint
  · exact .unrecognized version

theorem failure_of_check (failed : (options.check host mode none).result = .error error) :
    options.Failure host error := by
  cases wanted : options.minVersion with
  | none =>
      rw [check_of_no_version wanted] at failed
      cases failed
  | some suffix =>
      rw [check_result wanted] at failed
      cases found : options.finding host none suffix with
      | ok report =>
          rw [found] at failed
          cases failed
      | error other =>
          rw [found] at failed
          cases failed
          exact failure_of_finding found

theorem check_blank_iff :
    (options.check host mode none).result =
        .error (.queryFailed named "query command is empty") ↔
      options.minVersion.isSome ∧ options.query = some named ∧
        ∀ c ∈ named.toList, isBlank c = true := by
  constructor
  · intro failed
    have wanted : options.minVersion.isSome := by
      cases missing : options.minVersion with
      | none =>
          rw [check_of_no_version missing] at failed
          cases failed
      | some suffix => rfl
    refine ⟨wanted, ?_⟩
    cases failure_of_check failed with
    | blank missing =>
        obtain ⟨query, given, blank⟩ := queryWords_eq_nil_iff.mp missing
        have same : options.queryCommand = query := by simp [queryCommand, given]
        rw [same]
        exact ⟨given, blank⟩
    | query spelt complaint => exact absurd rfl complaint.ne_blank
  · rintro ⟨wanted, given, blank⟩
    obtain ⟨suffix, wanted⟩ := Option.isSome_iff_exists.mp wanted
    have missing := queryWords_eq_nil_iff.mpr ⟨named, given, blank⟩
    have same : options.queryCommand = named := by simp [queryCommand, given]
    rw [check_of_blank wanted (parse?_queryCommand_eq_none_iff.mpr missing), same]

theorem named_of_check_error
    (failed : (options.check host mode none).result = .error (.queryFailed named message)) :
    named = " ".intercalate options.queryWords ∨
      message = "query command is empty" ∧ options.query = some named := by
  cases failure_of_check failed with
  | blank missing => exact .inr ⟨rfl, (check_blank_iff.mp failed).2.1⟩
  | query spelt complaint => exact .inl (display_of_parse?_queryCommand spelt)

theorem mem_detailCalls_asked_iff :
    ⟨.detail, text⟩ ∈ detailCalls mode (options.asked host none) ↔
      options.queryWords ≠ [] ∧ mode = .verbose ∧
        text = "query: " ++ " ".intercalate options.queryWords := by
  unfold asked Source.ofCommandText
  cases spelt : CommandLine.parse? options.queryCommand with
  | none => simp [detailCalls, parse?_queryCommand_eq_none_iff.mp spelt]
  | some command =>
      have some := queryWords_ne_nil_of_parse? spelt
      cases mode <;>
        simp [detailCalls, Source.ofCommand, some, display_of_parse?_queryCommand spelt]

theorem detail_not_mem_endingCalls (found : Except GateError Report) :
    ⟨.detail, text⟩ ∉ options.endingCalls found := by
  intro said
  cases found with
  | error error => cases said
  | ok report =>
      rcases List.mem_append.mp said with warning | verdict
      · cases channel_of_warning warning
      · have same := List.mem_singleton.mp verdict
        unfold verdictCall at same
        split at same
        · cases same
        · split at same <;> cases same

theorem detail_mem_calls_check_iff :
    ⟨.detail, text⟩ ∈ calls (options.check host mode none).events ↔
      options.minVersion.isSome ∧ options.json = false ∧ options.queryWords ≠ [] ∧ mode = .verbose ∧
        text = "query: " ++ " ".intercalate options.queryWords := by
  cases wanted : options.minVersion with
  | none => simp [check_of_no_version wanted]
  | some suffix =>
      have spoken : calls (options.check host mode none).events = _ := calls_check wanted nofun
      rw [spoken, List.mem_append, openingCalls]
      cases options.json with
      | true => simp [detail_not_mem_endingCalls]
      | false => simp [detail_not_mem_endingCalls, mem_detailCalls_asked_iff]

/-- What a check asks when no source is given. It runs one command, with the words of its query command,
if it has a version to check against and these words are not none, which they are only for a query that
is given and blank; and only then is the query said to be empty. Every other failed query and the detail
in the verbose mode name the command by these words with single spaces between them, while a blank query
is named as it was given. -/
theorem query_command_words (options : CheckOptions) (host : Host) (mode : Ui.Mode) :
    let run := options.check host mode none
    (launches run.events).map CommandLine.words =
        (if options.minVersion.isSome ∧ options.queryWords ≠ [] then [options.queryWords] else []) ∧
      (options.queryWords = [] ↔
        ∃ query, options.query = some query ∧ ∀ c ∈ query.toList, isBlank c = true) ∧
      (∀ named, run.result = .error (.queryFailed named "query command is empty") ↔
        options.minVersion.isSome ∧ options.query = some named ∧
          ∀ c ∈ named.toList, isBlank c = true) ∧
      (∀ named message, run.result = .error (.queryFailed named message) →
        named = " ".intercalate options.queryWords ∨
          message = "query command is empty" ∧ options.query = some named) ∧
      ∀ text, ⟨.detail, text⟩ ∈ calls run.events ↔
        options.minVersion.isSome ∧ options.json = false ∧ options.queryWords ≠ [] ∧
          mode = .verbose ∧ text = "query: " ++ " ".intercalate options.queryWords :=
  ⟨options.map_words_launches_check host mode, queryWords_eq_nil_iff, fun _ => check_blank_iff,
    fun _ _ => named_of_check_error, fun _ => detail_mem_calls_check_iff⟩

/-- A toolchain name of two words between wide blanks: three words are run, and the query that finds no
such program is named by them. -/
theorem query_command_words_padded :
    let options : CheckOptions := { minVersion := some "1.20", toolchain := "\u3000my  go\t" }
    let host : Host := fun _ => .error (.system 2)
    let run := options.check host .verbose none
    let failure : GateError :=
      .queryFailed "my go version" "IO error: No such file or directory (os error 2)"
    (launches run.events).map CommandLine.words = [["my", "go", "version"]] ∧
      run.result = .error failure ∧ "my go version" = " ".intercalate options.queryWords ∧
      ⟨.detail, "query: my go version"⟩ ∈ calls run.events := by
  intro options host run failure
  have wordsAre : options.queryWords = ["my", "go", "version"] := by cbv
  obtain ⟨run, _, _, named, detail⟩ := query_command_words options host .verbose
  have failed : (options.check host .verbose none).result = .error failure := by decide +kernel
  refine ⟨?_, failed, ?_, ?_⟩
  · rw [run, wordsAre]
    rfl
  · rcases named _ _ failed with same | ⟨_, given⟩
    · exact same
    · cases given
  · refine (detail _).mpr ⟨rfl, rfl, by simp [wordsAre], rfl, ?_⟩
    rw [wordsAre]
    rfl

/-- A query of three spaces has no words, and yet it is not named by the empty text. -/
theorem blank_query_not_named_by_words :
    let options : CheckOptions := { minVersion := some "1.20", query := some "   " }
    let host : Host := fun _ => .error (.system 2)
    ¬ ∀ named message, (options.check host .normal none).result =
        .error (.queryFailed named message) → named = " ".intercalate options.queryWords := by
  intro options host named
  have failed : (options.check host .normal none).result =
      .error (.queryFailed "   " "query command is empty") := by cbv
  have same := named _ _ failed
  exact absurd same (by decide +kernel)

end Cli.CheckOptions

end VersionGate
