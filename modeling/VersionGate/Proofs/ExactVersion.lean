import VersionGate.Proofs.Gate

namespace VersionGate

open Text

variable {first second version rest : String} {gate : Gate} {source : Source} {suffix : String}

/-- Of a text in the place of the version, without a line feed, the first word is reported. -/
theorem reportedVersion_of_first_word {word : List Char} {later : List (List Char)}
    (isFirst : IsWord first.toList) (isSecond : IsWord second.toList)
    (single : '\n' ∉ version.toList) (spelt : words version.toList = word :: later)
    (ends : EndsWord rest.toList) :
    reportedVersion (first ++ " " ++ second ++ " " ++ version ++ rest) =
      .ok (String.ofList word) := by
  have space : IsSpacing [' '] := by decide
  have apart (text : List Char) : EndsWord ([' '] ++ text) := .of_blanks (by simp) space.blank
  have split : (first ++ " " ++ second ++ " " ++ version ++ rest).toList =
      first.toList ++ ([' '] ++ (second.toList ++ ([' '] ++ (version.toList ++ rest.toList)))) := by
    simp
  have read : words ((first ++ " " ++ second ++ " " ++ version ++ rest).toList.takeWhile
      (· ≠ '\n')) = first.toList :: second.toList :: word ::
        (later ++ words (rest.toList.takeWhile (· ≠ '\n'))) := by
    rw [split, isFirst.withinLine, space.withinLine, isSecond.withinLine, space.withinLine,
      withinLine single, isFirst.words_append (apart _), words_blanks_append space.blank,
      isSecond.words_append (apart _), words_blanks_append space.blank,
      ends.withinLine.words_append, spelt, List.cons_append]
  exact reportedVersion_of_words read

/-- A version is equal to itself, or else it cannot be read. -/
theorem order_self (comparison : Comparison) (version toolchain : String) :
    comparison.order version version toolchain = .ok .eq ∨
      comparison = .numeric ∧ components? version toolchain = none ∧
        comparison.order version version toolchain = .error (.unrecognizedVersion version) := by
  cases compared : comparison.order version version toolchain with
  | ok ordering =>
      have order : TotalPreorder (comparison.order · · toolchain) := order_totalPreorder comparison
      rw [order.reflexive version ordering compared]
      exact .inl rfl
  | error error =>
      obtain ⟨numeric, unread, named, same, rfl⟩ := order_error_cases compared
      rw [or_self] at unread same
      subst same
      exact .inr ⟨numeric, unread, rfl⟩

theorem installedVersion_of_first_word {output : String} {word : List Char}
    {later : List (List Char)} (asked : source.query.result = .ok output)
    (line : output = first ++ " " ++ second ++ " " ++ version ++ rest)
    (isFirst : IsWord first.toList) (isSecond : IsWord second.toList)
    (single : '\n' ∉ version.toList) (spelt : words version.toList = word :: later)
    (ends : EndsWord rest.toList) :
    (installedVersion source).result = .ok (String.ofList word) := by
  have reported := reportedVersion_of_first_word isFirst isSecond single spelt ends
  rw [installedVersion_of_output asked, line, reported]
  rfl

namespace Gate

def exactReport (gate : Gate) (suffix : String) : Report where
  toolchain := gate.toolchain
  required := gate.requiredVersion suffix
  installed := gate.requiredVersion suffix
  comparison := gate.comparison
  satisfied := true

theorem check_of_exact
    (installed : (installedVersion source).result = .ok (gate.requiredVersion suffix)) :
    (gate.check suffix source).result = .ok (gate.exactReport suffix) ∨
      gate.comparison = .numeric ∧
        components? (gate.requiredVersion suffix) gate.toolchain = none ∧
        (gate.check suffix source).result =
          .error (.unrecognizedVersion (gate.requiredVersion suffix)) := by
  rcases order_self gate.comparison (gate.requiredVersion suffix) gate.toolchain with
    equal | ⟨numeric, unread, failed⟩
  · rw [check_of_order installed equal]
    exact .inl rfl
  · rw [check_of_disorder installed failed]
    exact .inr ⟨numeric, unread, rfl⟩

theorem check_of_unread {installed : String} (numeric : gate.comparison = .numeric)
    (asked : (installedVersion source).result = .ok installed)
    (unread : components? installed gate.toolchain = none) :
    (gate.check suffix source).result = .error (.unrecognizedVersion installed) := by
  have failed : gate.comparison.order installed (gate.requiredVersion suffix) gate.toolchain =
      .error (.unrecognizedVersion installed) := by
    rw [numeric]
    exact order_numeric_eq_error_iff.mpr (.inl ⟨unread, rfl⟩)
  rw [check_of_disorder asked failed]

theorem installed_of_check {installed : String} {report : Report}
    (asked : (installedVersion source).result = .ok installed)
    (reached : (gate.check suffix source).result = .ok report) : report.installed = installed := by
  obtain ⟨version, ordering, answered, _, rfl⟩ := check_eq_ok_iff.mp reached
  rw [asked] at answered
  cases answered
  rfl

end Gate

/-- A toolchain that prints the required version after two words is never found too old. If there are no
blanks in that version, a lexical check comes to a satisfied report on it, and so does a numeric check, or
else says that the version is not recognized, which is so exactly if it has no components. If there are
blanks in it, and no line feed, the installed version of any report is its first word. -/
theorem exact_version_satisfies (gate : Gate) (suffix first second rest : String) (source : Source)
    (isFirst : IsWord first.toList) (isSecond : IsWord second.toList) (ends : EndsWord rest.toList)
    (asked : source.query.result =
      .ok (first ++ " " ++ second ++ " " ++ gate.requiredVersion suffix ++ rest)) :
    let required := gate.requiredVersion suffix
    let result := (gate.check suffix source).result
    let satisfied : Report :=
      { toolchain := gate.toolchain, required, installed := required,
        comparison := gate.comparison, satisfied := true }
    (IsWord required.toList →
      (gate.comparison = .lexical → result = .ok satisfied) ∧
      (gate.comparison = .numeric →
        (result = .ok satisfied ∨ result = .error (.unrecognizedVersion required)) ∧
        (result = .error (.unrecognizedVersion required) ↔
          components? required gate.toolchain = none))) ∧
    ('\n' ∉ required.toList → (¬ ∀ c ∈ required.toList, isBlank c = true) →
      ∃ version, (words required.toList).head? = some version.toList ∧
        (installedVersion source).result = .ok version ∧
        ∀ report, result = .ok report → report.installed = version) := by
  intro required result satisfied
  have installed {word : List Char} {later : List (List Char)} (single : '\n' ∉ required.toList)
      (spelt : words required.toList = word :: later) :
      (installedVersion source).result = .ok (String.ofList word) :=
    installedVersion_of_first_word asked rfl isFirst isSecond single spelt ends
  refine ⟨fun isWord => ?_, fun single some => ?_⟩
  · have exact := installed isWord.noFeed isWord.words_eq
    rw [String.ofList_toList] at exact
    have checked := Gate.check_of_exact exact
    refine ⟨fun lexical => ?_, fun numeric => ⟨?_, fun failed => ?_, fun unread => ?_⟩⟩
    · rcases checked with reached | ⟨numeric, _, _⟩
      · exact reached
      · rw [lexical] at numeric
        cases numeric
    · exact checked.imp id fun unrecognized => unrecognized.2.2
    · rcases checked with reached | ⟨_, unread, _⟩
      · rw [show result = _ from reached] at failed
        cases failed
      · exact unread
    · exact Gate.check_of_unread numeric exact unread
  · obtain ⟨word, later, spelt⟩ := List.exists_cons_of_ne_nil (mt words_eq_nil_iff.mp some)
    have found := installed single spelt
    exact ⟨String.ofList word, by simp [spelt], found, fun report => Gate.installed_of_check found⟩

/-- The version `go1.21` between a wide space and a carriage return, the version `go-next` that has no
components, and `go 1.21`, of which only the first word is compared. -/
theorem exact_version_satisfies_go :
    let numeric : Gate := ({} : Gate).withComparison .numeric
    let source (version : String) : Source := .fixed ("go version " ++ version ++ "\u3000linux\r\n")
    (numeric.check "1.21" (source "go1.21")).result =
        .ok ⟨"go", "go1.21", "go1.21", .numeric, true⟩ ∧
      (numeric.check "-next" (source "go-next")).result =
        .error (.unrecognizedVersion "go-next") ∧
      ∀ report, (({} : Gate).check " 1.21" (source "go 1.21")).result = .ok report →
        report.installed = "go" := by
  intro numeric source
  have ends : EndsWord "\u3000linux\r\n".toList := by decide
  have exact (gate : Gate) (suffix : String) (source : Source) :=
    exact_version_satisfies gate suffix "go" "version" "\u3000linux\r\n" source (by decide)
      (by decide) ends
  refine ⟨?_, ?_, ?_⟩
  · obtain ⟨either, unrecognized⟩ :=
      ((exact numeric "1.21" (source "go1.21") rfl).1 (by decide)).2 rfl
    refine either.resolve_right fun failed => ?_
    have read : components? (numeric.requiredVersion "1.21") numeric.toolchain = some [1, 21] := by
      cbv
    rw [unrecognized.mp failed] at read
    cases read
  · obtain ⟨_, unrecognized⟩ :=
      ((exact numeric "-next" (source "go-next") rfl).1 (by decide)).2 rfl
    exact unrecognized.mpr (by cbv)
  · have solid : ¬ ∀ c ∈ (({} : Gate).requiredVersion " 1.21").toList, isBlank c = true :=
      fun blank => absurd (blank 'g' (by decide)) (by decide)
    obtain ⟨version, word, _, only⟩ := (exact {} " 1.21" (source "go 1.21") rfl).2
      (by decide) solid
    have spelt : (words (({} : Gate).requiredVersion " 1.21").toList).head? = some "go".toList := by
      cbv
    rw [spelt] at word
    rw [String.toList_inj.mp (Option.some.inj word)]
    exact only

end VersionGate
