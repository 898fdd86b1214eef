import VersionGate.Proofs.Cli.Occurrence

/-!
Where the value of a setting comes from.

The command line comes before the environment, and the environment before the default. The environment is
asked only when the words are read, so that a command line that is refused without it is refused with it
too; what it can do after that is said by what an invocation is in it and by the one way to be refused
because of it.
-/

namespace VersionGate.Cli

inductive Names : String → Comparison → Prop where
  | lexical : Names "lexical" .lexical
  | numeric : Names "numeric" .numeric

/-- What a variable comes to as a comparison: if it is not set, the lexical one. -/
inductive Stands : Option String → Comparison → Prop where
  | unset : Stands none .lexical
  | named {text : String} {comparison : Comparison} (names : Names text comparison) :
      Stands (some text) comparison

/-- An invocation with other values for the settings that have variables. -/
def Invocation.configured (alone : Invocation) (toolchain : String) (query : Option String)
    (compare : Comparison) : Invocation :=
  { alone with check := { alone.check with toolchain, query, compare } }

/-- An invocation in an environment, next to the one that the command line leads to alone: they differ
only in settings that the command line does not give, and these have the values of their variables or
else their defaults. -/
structure Layered (words : List String) (environment : Environment) (alone invocation : Invocation) :
    Prop where
  toolchain_given (given : Given words .toolchain) :
    invocation.check.toolchain = alone.check.toolchain
  toolchain_free (free : ¬ Given words .toolchain) :
    invocation.check.toolchain = (environment "TOOLGATE_TOOLCHAIN").getD "go"
  query_given (given : Given words .query) : invocation.check.query = alone.check.query
  query_free (free : ¬ Given words .query) : invocation.check.query = environment "TOOLGATE_QUERY"
  compare_given (given : Given words .compare) : invocation.check.compare = alone.check.compare
  compare_free (free : ¬ Given words .compare) :
    Stands (environment "TOOLGATE_COMPARE") invocation.check.compare
  others : invocation =
    alone.configured invocation.check.toolchain invocation.check.query invocation.check.compare

/-- The only fault an environment can be at: a comparison that is none, where the command line gives
none. -/
structure Refused (words : List String) (environment : Environment) (halt : Halt) : Prop where
  free : ¬ Given words .compare
  fault : ∃ text, environment "TOOLGATE_COMPARE" = some text ∧ text ≠ "lexical" ∧ text ≠ "numeric" ∧
    halt = .usage (if text = "" then .valueRequired .compare else .invalidValue text .compare)

/-- Two environments with the same variables for the settings that a command line does not give. -/
structure Agree (words : List String) (one other : Environment) : Prop where
  toolchain (free : ¬ Given words .toolchain) : one "TOOLGATE_TOOLCHAIN" = other "TOOLGATE_TOOLCHAIN"
  query (free : ¬ Given words .query) : one "TOOLGATE_QUERY" = other "TOOLGATE_QUERY"
  compare (free : ¬ Given words .compare) : one "TOOLGATE_COMPARE" = other "TOOLGATE_COMPARE"

theorem names_iff {text : String} {comparison : Comparison} :
    Comparison.ofName? text = some comparison ↔ Names text comparison := by
  constructor
  · intro found
    have same := List.find?_some found
    rw [beq_iff_eq] at same
    subst same
    cases comparison with
    | lexical => exact .lexical
    | numeric => exact .numeric
  · intro names
    cases names <;> rfl

theorem ofName?_eq_none_iff {text : String} :
    Comparison.ofName? text = none ↔ text ≠ "lexical" ∧ text ≠ "numeric" := by
  constructor
  · intro missing
    constructor
    · rintro rfl
      cases missing
    · rintro rfl
      cases missing
  · rintro ⟨notLexical, notNumeric⟩
    cases found : Comparison.ofName? text with
    | none => rfl
    | some comparison =>
        cases names_iff.mp found with
        | lexical => exact absurd rfl notLexical
        | numeric => exact absurd rfl notNumeric

theorem Stands.unique {value : Option String} {first second : Comparison} (left : Stands value first)
    (right : Stands value second) : first = second := by
  cases left with
  | unset =>
      cases right
      rfl
  | named names =>
      cases right with
      | named other =>
          rw [← names_iff] at names other
          exact Option.some_inj.mp (names.symm.trans other)

section Layers

variable {words : List String} {environment one other : Environment} {alone invocation : Invocation}
  {halt : Halt}

theorem Layered.unique {another : Invocation} (left : Layered words environment alone invocation)
    (right : Layered words environment alone another) : invocation = another := by
  have toolchain : invocation.check.toolchain = another.check.toolchain := by
    by_cases given : Given words .toolchain
    · rw [left.toolchain_given given, right.toolchain_given given]
    · rw [left.toolchain_free given, right.toolchain_free given]
  have query : invocation.check.query = another.check.query := by
    by_cases given : Given words .query
    · rw [left.query_given given, right.query_given given]
    · rw [left.query_free given, right.query_free given]
  have compare : invocation.check.compare = another.check.compare := by
    by_cases given : Given words .compare
    · rw [left.compare_given given, right.compare_given given]
    · exact (left.compare_free given).unique (right.compare_free given)
  rw [left.others, right.others, toolchain, query, compare]

theorem Refused.unique {another : Halt} (left : Refused words environment halt)
    (right : Refused words environment another) : halt = another := by
  obtain ⟨text, held, _, _, rfl⟩ := left.fault
  obtain ⟨text', held', _, _, rfl⟩ := right.fault
  cases held.symm.trans held'
  rfl

theorem Layered.not_refused (layered : Layered words environment alone invocation) :
    ¬ Refused words environment halt := by
  rintro ⟨free, text, held, notLexical, notNumeric, -⟩
  have missing := ofName?_eq_none_iff.mpr ⟨notLexical, notNumeric⟩
  have stands := layered.compare_free free
  generalize invocation.check.compare = comparison at stands
  rw [held] at stands
  cases stands with
  | named names =>
      rw [names_iff.mpr names] at missing
      cases missing

theorem Layered.of_agree (agree : Agree words one other) (layered : Layered words one alone invocation) :
    Layered words other alone invocation where
  toolchain_given := layered.toolchain_given
  toolchain_free free := by rw [layered.toolchain_free free, agree.toolchain free]
  query_given := layered.query_given
  query_free free := by rw [layered.query_free free, agree.query free]
  compare_given := layered.compare_given
  compare_free free := agree.compare free ▸ layered.compare_free free
  others := layered.others

theorem Refused.of_agree (agree : Agree words one other) (refused : Refused words one halt) :
    Refused words other halt where
  free := refused.free
  fault := agree.compare refused.free ▸ refused.fault

end Layers

namespace Draft

/-- A draft with the toolchain and the query from their variables, where it has none. -/
def withTexts (draft : Draft) (environment : Environment) : Draft :=
  { draft with
    toolchain := draft.toolchain.or (environment "TOOLGATE_TOOLCHAIN")
    query := draft.query.or (environment "TOOLGATE_QUERY") }

theorem fill_toolchain (draft : Draft) (environment : Environment) :
    draft.fill environment .toolchain =
      .ok { draft with toolchain := draft.toolchain.or (environment "TOOLGATE_TOOLCHAIN") } := by
  rcases draft with ⟨_ | name⟩
  · cases held : environment "TOOLGATE_TOOLCHAIN" with
    | none => exact fill_of_unset held
    | some name => exact fill_of_free rfl held
  · exact fill_of_isSet rfl

theorem fill_query (draft : Draft) (environment : Environment) :
    draft.fill environment .query =
      .ok { draft with query := draft.query.or (environment "TOOLGATE_QUERY") } := by
  rcases draft with ⟨toolchain, _ | command⟩
  · cases held : environment "TOOLGATE_QUERY" with
    | none => exact fill_of_unset held
    | some command => exact fill_of_free rfl held
  · exact fill_of_isSet rfl

end Draft

section Parse

variable {words : List String} {draft : Draft} {environment other : Environment} {halt : Halt}
  {invocation : Invocation}

theorem parse_of_read_error (read : ({} : Draft).read words = .error halt) :
    Invocation.parse environment words = .error halt := by
  simp only [Invocation.parse, read]
  rfl

theorem parse_of_read (read : ({} : Draft).read words = .ok draft) :
    Invocation.parse environment words =
      (Draft.orHalt ((draft.withTexts environment).fill environment .compare)).map
        Draft.invocation := by
  simp only [Invocation.parse, read, Draft.fill_toolchain, Draft.fill_query, ok_bind,
    Draft.orHalt_ok]
  rfl

/-- What the toolchain and the query come to, whatever the comparison does. -/
theorem layered_of_read (read : ({} : Draft).read words = .ok draft) {comparison : Comparison}
    (given : draft.isSet .compare = true → comparison = draft.compare.getD .lexical)
    (free : draft.isSet .compare = false → Stands (environment "TOOLGATE_COMPARE") comparison) :
    Layered words environment draft.invocation
      (draft.invocation.configured
        ((draft.toolchain.or (environment "TOOLGATE_TOOLCHAIN")).getD "go")
        (draft.query.or (environment "TOOLGATE_QUERY")) comparison) where
  toolchain_given occurs := by
    obtain ⟨name, held⟩ := Option.isSome_iff_exists.mp ((given_iff read .toolchain).mp occurs)
    simp [Invocation.configured, Draft.invocation, held]
  toolchain_free missing := by
    have held := Option.not_isSome_iff_eq_none.mp (mt (given_iff read .toolchain).mpr missing)
    simp [Invocation.configured, held]
  query_given occurs := by
    obtain ⟨command, held⟩ := Option.isSome_iff_exists.mp ((given_iff read .query).mp occurs)
    simp [Invocation.configured, Draft.invocation, held]
  query_free missing := by
    have held := Option.not_isSome_iff_eq_none.mp (mt (given_iff read .query).mpr missing)
    simp [Invocation.configured, held]
  compare_given occurs := given ((given_iff read .compare).mp occurs)
  compare_free missing := free (Bool.not_eq_true _ ▸ mt (given_iff read .compare).mpr missing)
  others := rfl

theorem parse_of_given (read : ({} : Draft).read words = .ok draft)
    (given : draft.isSet .compare = true) :
    Invocation.parse environment words = .ok (draft.withTexts environment).invocation := by
  have given : (draft.withTexts environment).isSet .compare = true := given
  rw [parse_of_read read, Draft.fill_of_isSet given]
  rfl

theorem parse_of_unset (read : ({} : Draft).read words = .ok draft)
    (unset : environment "TOOLGATE_COMPARE" = none) :
    Invocation.parse environment words = .ok (draft.withTexts environment).invocation := by
  have unset : Setting.compare.envName?.bind environment = none := unset
  rw [parse_of_read read, Draft.fill_of_unset unset]
  rfl

theorem parse_of_held {text : String} (read : ({} : Draft).read words = .ok draft)
    (free : draft.isSet .compare = false) (held : environment "TOOLGATE_COMPARE" = some text) :
    Invocation.parse environment words =
      (Draft.orHalt ((draft.withTexts environment).assign .compare text)).map Draft.invocation := by
  have free : (draft.withTexts environment).isSet .compare = false := free
  have held : Setting.compare.envName?.bind environment = some text := held
  rw [parse_of_read read, Draft.fill_of_free free held]

/-- A command line that is read whole leads to its invocation with the variables in their places, or the
comparison's variable is at fault. -/
theorem parse_layered_or_refused (read : ({} : Draft).read words = .ok draft)
    (environment : Environment) :
    (∃ invocation, Invocation.parse environment words = .ok invocation ∧
        Layered words environment draft.invocation invocation) ∨
      ∃ halt, Invocation.parse environment words = .error halt ∧ Refused words environment halt := by
  cases set : draft.isSet .compare with
  | true =>
      have layered : Layered words environment draft.invocation _ :=
        layered_of_read read (fun _ => rfl) (by simp [set])
      exact .inl ⟨_, parse_of_given read set, layered⟩
  | false =>
      have missing : draft.compare = none := by simpa [Draft.isSet] using set
      cases held : environment "TOOLGATE_COMPARE" with
      | none =>
          have stands : Stands (environment "TOOLGATE_COMPARE") (draft.compare.getD .lexical) := by
            rw [held, missing]
            exact .unset
          exact .inl ⟨_, parse_of_unset read held, layered_of_read read (fun _ => rfl) fun _ => stands⟩
      | some text =>
          have parsed := parse_of_held read set held
          cases found : Comparison.ofName? text with
          | some comparison =>
              have stands : Stands (environment "TOOLGATE_COMPARE") comparison := by
                rw [held]
                exact .named (names_iff.mp found)
              left
              simp only [Draft.assign, found] at parsed
              exact ⟨_, parsed, layered_of_read read (by simp [set]) fun _ => stands⟩
          | none =>
              right
              simp only [Draft.assign, found] at parsed
              obtain ⟨notLexical, notNumeric⟩ := ofName?_eq_none_iff.mp found
              have free : ¬ Given words .compare := by simp [given_iff read, set]
              refine ⟨_, parsed, free, text, held, notLexical, notNumeric, ?_⟩
              simp [UsageError.ofValue]

theorem parse_eq_ok_iff (read : ({} : Draft).read words = .ok draft) :
    Invocation.parse environment words = .ok invocation ↔
      Layered words environment draft.invocation invocation := by
  obtain ⟨found, parsed, layered⟩ | ⟨halt, parsed, refused⟩ :=
    parse_layered_or_refused read environment
  · rw [parsed]
    constructor
    · rintro ⟨⟩
      exact layered
    · intro another
      rw [layered.unique another]
  · rw [parsed]
    exact ⟨nofun, fun layered => absurd refused layered.not_refused⟩

theorem parse_eq_error_iff (read : ({} : Draft).read words = .ok draft) :
    Invocation.parse environment words = .error halt ↔ Refused words environment halt := by
  obtain ⟨invocation, parsed, layered⟩ | ⟨found, parsed, refused⟩ :=
    parse_layered_or_refused read environment
  · rw [parsed]
    exact ⟨nofun, fun refused => absurd refused layered.not_refused⟩
  · rw [parsed]
    constructor
    · rintro ⟨⟩
      exact refused
    · intro another
      rw [refused.unique another]

/-- A variable whose setting is given makes no difference. -/
theorem parse_eq_of_agree (agree : Agree words environment other) :
    Invocation.parse environment words = Invocation.parse other words := by
  cases read : ({} : Draft).read words with
  | error halt => rw [parse_of_read_error read, parse_of_read_error read]
  | ok draft =>
      cases parsed : Invocation.parse environment words with
      | ok invocation =>
          have layered := (parse_eq_ok_iff read).mp parsed
          exact ((parse_eq_ok_iff read).mpr (layered.of_agree agree)).symm
      | error halt =>
          have refused := (parse_eq_error_iff read).mp parsed
          exact ((parse_eq_error_iff read).mpr (refused.of_agree agree)).symm

end Parse

/-- A value on the command line comes before the variable of its setting, and the variable before the
default. What is wrong with the words is wrong in every environment; otherwise the environment is at
fault only with a comparison that is none, and only where the command line gives none. -/
theorem parse_precedence (words : List String) {bare : Environment} (unset : Unconfigured bare) :
    (∀ halt, Invocation.parse bare words = .error halt →
      ∀ environment, Invocation.parse environment words = .error halt) ∧
    (∀ alone, Invocation.parse bare words = .ok alone → ∀ environment,
      (∀ invocation, Invocation.parse environment words = .ok invocation ↔
        Layered words environment alone invocation) ∧
      ∀ halt, Invocation.parse environment words = .error halt ↔
        Refused words environment halt) ∧
    ∀ one other, Agree words one other →
      Invocation.parse one words = Invocation.parse other words := by
  refine ⟨?_, ?_, fun one other agree => parse_eq_of_agree agree⟩
  · intro halt rejected environment
    cases read : ({} : Draft).read words with
    | error found =>
        rw [parse_of_read_error read] at rejected ⊢
        exact rejected
    | ok draft =>
        rw [parse_of_unconfigured unset read] at rejected
        cases rejected
  · intro alone parsed environment
    cases read : ({} : Draft).read words with
    | error found =>
        rw [parse_of_read_error read] at parsed
        cases parsed
    | ok draft =>
        rw [parse_of_unconfigured unset read] at parsed
        cases parsed
        exact ⟨fun invocation => parse_eq_ok_iff read, fun halt => parse_eq_error_iff read⟩

/-- The variable of the comparison holds no comparison. A command line that gives one does not come to
that variable, though it takes the query from its own; one that does not is refused. -/
theorem parse_precedence_semver :
    let environment : Environment := fun name =>
      if name = "TOOLGATE_COMPARE" then some "semver"
      else if name = "TOOLGATE_QUERY" then some "rustc -V"
      else none
    Invocation.parse environment ["-vt", "rust", "1.70", "--compare=numeric"] =
      .ok {
        check := {
          minVersion := some "1.70"
          toolchain := "rust"
          query := some "rustc -V"
          compare := .numeric }
        verbose := true } ∧
    Invocation.parse environment ["1.70"] = .error (.usage (.invalidValue "semver" .compare)) := by
  intro environment
  have bare : Unconfigured (fun _ => none) := ⟨rfl, rfl, rfl⟩
  constructor
  · obtain ⟨-, layers, -⟩ := parse_precedence ["-vt", "rust", "1.70", "--compare=numeric"] bare
    have read : ({} : Draft).read ["-vt", "rust", "1.70", "--compare=numeric"] =
        .ok {
          toolchain := some "rust"
          compare := some .numeric
          verbose := true
          positionals := ["1.70"] } := rfl
    refine ((layers _ rfl environment).1 _).mpr ?_
    exact {
      toolchain_given := fun _ => rfl
      toolchain_free := fun free => absurd ((given_iff read _).mpr rfl) free
      query_given := fun given => absurd ((given_iff read _).mp given) (by decide)
      query_free := fun _ => rfl
      compare_given := fun _ => rfl
      compare_free := fun free => absurd ((given_iff read _).mpr rfl) free
      others := rfl }
  · obtain ⟨-, layers, -⟩ := parse_precedence ["1.70"] bare
    have read : ({} : Draft).read ["1.70"] = .ok { positionals := ["1.70"] } := rfl
    have free : ¬ Given ["1.70"] .compare := by
      rw [given_iff read]
      decide
    refine ((layers _ rfl environment).2 _).mpr ?_
    exact ⟨free, "semver", rfl, by decide, by decide, rfl⟩

end VersionGate.Cli
