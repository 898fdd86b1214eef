import VersionGate.Gate.Session
import VersionGate.Proofs.Gate

/-!
Sessions: what a gate that is used again and again remembers, and what its reports are worth.

A step leaves the gate alone unless it chooses one, and every report bears itself out, whatever was
asked before it. Each step is examined once; the statements about whole sessions follow by induction.
-/

namespace VersionGate

variable {gate : Gate} {suffix version : String} {source : Source} {report : Report}

theorem isWord_of_installedVersion (asked : (installedVersion source).result = .ok version) :
    Text.IsWord version.toList := by
  cases answered : source.query.result with
  | error error =>
      rw [installedVersion_of_error answered] at asked
      cases asked
  | ok output =>
      rw [installedVersion_of_output answered] at asked
      cases reported : reportedVersion output with
      | error reason =>
          rw [reported] at asked
          cases asked
      | ok word =>
          rw [reported] at asked
          cases asked
          exact isWord_of_reportedVersion reported

/-- A report on a check of a suffix with a gate that its own fields bear out: ordering its versions once
more leads to its verdict, and only a version that is too low makes it fail. -/
structure Report.Truthful (report : Report) (gate : Gate) (suffix : String) : Prop where
  toolchain : report.toolchain = gate.toolchain
  comparison : report.comparison = gate.comparison
  required : report.required = gate.toolchain ++ suffix
  installed : Text.IsWord report.installed.toList
  judged : ∃ ordering,
    report.comparison.order report.installed report.required report.toolchain = .ok ordering ∧
    (report.satisfied = true ↔ ordering ≠ .lt) ∧
    ∀ error, report.ensureSatisfied = .error error ↔
      ordering = .lt ∧ error = .versionTooLow report.installed report.required

theorem Report.ensureSatisfied_eq_error_iff {error : GateError} :
    report.ensureSatisfied = .error error ↔
      report.satisfied = false ∧ error = .versionTooLow report.installed report.required := by
  unfold ensureSatisfied
  cases report.satisfied <;> simp [eq_comm]

theorem Gate.truthful_of_check (reached : (gate.check suffix source).result = .ok report) :
    report.Truthful gate suffix ∧ (installedVersion source).result = .ok report.installed := by
  obtain ⟨version, ordering, asked, ordered, rfl⟩ := check_eq_ok_iff.mp reached
  refine ⟨⟨rfl, rfl, rfl, isWord_of_installedVersion asked, ordering, ordered, ?_, ?_⟩, asked⟩
  · exact reportOn_satisfied_iff
  · intro error
    rw [Report.ensureSatisfied_eq_error_iff, ← Bool.not_eq_true, reportOn_satisfied_iff,
      Decidable.not_not]

/-- Why a check comes to no report. -/
inductive Unreported (gate : Gate) (suffix : String) : Except GateError Source → GateError → Prop where
  | noSource (error : GateError) : Unreported gate suffix (.error error) error
  | noVersion {source : Source} {error : GateError}
      (unanswered : (installedVersion source).result = .error error) :
      Unreported gate suffix (.ok source) error
  | noOrder {source : Source} {version : String} {error : GateError}
      (asked : (installedVersion source).result = .ok version)
      (disorder : gate.comparison.order version (gate.toolchain ++ suffix) gate.toolchain =
        .error error) :
      Unreported gate suffix (.ok source) error

theorem Gate.unreported_of_check {error : GateError}
    (failed : (gate.check suffix source).result = .error error) :
    Unreported gate suffix (.ok source) error := by
  rcases gate.check_cases suffix source with
    ⟨other, unanswered, ended⟩ | ⟨version, other, asked, disorder, ended⟩ | ⟨_, _, _, _, ended⟩
  · rw [ended] at failed
    cases failed
    exact .noVersion unanswered
  · rw [ended] at failed
    cases failed
    exact .noOrder asked disorder
  · rw [ended] at failed
    cases failed

namespace Session

namespace Step

def chooses : Step → Bool
  | renew _ | reset | useComparison _ => true
  | showRequired _ | check _ _ | ensure | recheck _ => false

/-- The gate that a step chooses, given the one before. A new gate orders lexically. -/
def choice (gate : Gate) : Step → Gate
  | renew toolchain => ⟨toolchain, .lexical⟩
  | reset => ⟨"go", .lexical⟩
  | useComparison comparison => ⟨gate.toolchain, comparison⟩
  | showRequired _ | check _ _ | ensure | recheck _ => gate

/-- The suffix and the source of a step that is a check, given the last report. -/
def asks? (last : Option Report) : Step → Option (String × Except GateError Source)
  | check suffix source => some (suffix, source)
  | recheck suffix => last.map fun report => (suffix, .ok (.fixed ("x y " ++ report.required)))
  | renew _ | reset | useComparison _ | showRequired _ | ensure => none

theorem choice_of_not_chooses {step : Step} (other : step.chooses = false) :
    step.choice gate = gate := by
  cases step <;> first | rfl | simp [chooses] at other

end Step

/-- What a step may be answered in a session. -/
inductive Answers (session : Session) : Step → Reply → Prop where
  | chosen {step : Step} (chooses : step.chooses = true) : Answers session step .done
  | required (suffix : String) :
      Answers session (.showRequired suffix) (.required (session.gate.toolchain ++ suffix))
  /-- A check comes to a report with the gate of that moment. -/
  | report {step : Step} {suffix : String} {source : Source} {report : Report}
      (asks : step.asks? session.last = some (suffix, .ok source))
      (asked : (installedVersion source).result = .ok report.installed)
      (truthful : report.Truthful session.gate suffix) :
      Answers session step (.checked (.ok report))
  | unreported {step : Step} {suffix : String} {source : Except GateError Source} {error : GateError}
      (asks : step.asks? session.last = some (suffix, source))
      (reason : Unreported session.gate suffix source error) :
      Answers session step (.checked (.error error))
  /-- The last report was made with some gate, perhaps with an earlier one. -/
  | verdict {report : Report} (last : session.last = some report)
      (truthful : ∃ gate suffix, report.Truthful gate suffix) :
      Answers session .ensure (.verdict report.ensureSatisfied)
  | noReport {step : Step} (backward : step = .ensure ∨ ∃ suffix, step = .recheck suffix)
      (none : session.last = none) : Answers session step .noReport

/-- The report at hand, if there is one, was made by a check. -/
def LastTruthful (session : Session) : Prop :=
  ∀ report, session.last = some report → ∃ gate suffix, report.Truthful gate suffix

theorem step_gate (session : Session) (step : Step) :
    (session.step step).1.gate = step.choice session.gate := by
  cases step with
  | check suffix source => cases source <;> rfl
  | recheck suffix => cases last : session.last <;> simp [Session.step, last, Step.choice]
  | _ => rfl

theorem step_lastTruthful {session : Session} (truthful : session.LastTruthful) (step : Step) :
    (session.step step).1.LastTruthful := by
  intro report last
  cases step with
  | check suffix source =>
      cases source with
      | error error => exact truthful report last
      | ok source =>
          -- The check that is kept is the one that was answered.
          change (session.gate.check suffix source).result.toOption = some report at last
          cases reached : (session.gate.check suffix source).result with
          | error error =>
              rw [reached] at last
              cases last
          | ok made =>
              rw [reached] at last
              cases last
              exact ⟨session.gate, suffix, (Gate.truthful_of_check reached).1⟩
  | recheck suffix =>
      have kept : (session.step (.recheck suffix)).1 = session := by
        cases last : session.last <;> simp [Session.step, last]
      rw [kept] at last
      exact truthful report last
  | _ => exact truthful report last

theorem answers_check {session : Session} {step : Step}
    (asks : step.asks? session.last = some (suffix, .ok source)) :
    Answers session step (.checked (session.gate.check suffix source).result) := by
  cases reached : (session.gate.check suffix source).result with
  | ok report =>
      obtain ⟨truthful, asked⟩ := Gate.truthful_of_check reached
      exact .report asks asked truthful
  | error error => exact .unreported asks (Gate.unreported_of_check reached)

theorem step_answers {session : Session} (truthful : session.LastTruthful) (step : Step) :
    Answers session step (session.step step).2.2 := by
  cases step with
  | renew toolchain => exact .chosen rfl
  | reset => exact .chosen rfl
  | useComparison comparison => exact .chosen rfl
  | showRequired suffix => exact .required suffix
  | check suffix source =>
      cases source with
      | ok source => exact answers_check rfl
      | error error => exact .unreported rfl (.noSource error)
  | ensure =>
      cases last : session.last with
      | none => simpa [Session.step, last] using Answers.noReport (.inl rfl) last
      | some report => simpa [Session.step, last] using Answers.verdict last (truthful report last)
  | recheck suffix =>
      cases last : session.last with
      | none => simpa [Session.step, last] using Answers.noReport (.inr ⟨suffix, rfl⟩) last
      | some report =>
          have asks : (Step.recheck suffix).asks? session.last =
              some (suffix, .ok (.fixed ("x y " ++ report.required))) := by
            rw [last]
            rfl
          simpa [Session.step, last] using answers_check asks

def after (session : Session) (steps : List Step) : Session :=
  steps.foldl (fun session step => (session.step step).1) session

theorem after_lastTruthful {session : Session} (truthful : session.LastTruthful)
    (steps : List Step) : (session.after steps).LastTruthful := by
  induction steps generalizing session with
  | nil => exact truthful
  | cons step rest ih => exact ih (step_lastTruthful truthful step)

/-- Only the steps that choose a gate have a part in the gate after a session. -/
theorem after_gate (session : Session) (steps : List Step) :
    (session.after steps).gate = (steps.filter Step.chooses).foldl Step.choice session.gate := by
  induction steps generalizing session with
  | nil => rfl
  | cons step rest ih =>
      change ((session.step step).1.after rest).gate = _
      rw [ih, step_gate]
      cases chooses : step.chooses with
      | true => simp [chooses]
      | false => simp [chooses, Step.choice_of_not_chooses chooses]

theorem steps_append (session : Session) (before after : List Step) :
    session.steps (before ++ after) = session.steps before ++ (session.after before).steps after := by
  induction before generalizing session with
  | nil => rfl
  | cons step rest ih =>
      simp only [List.cons_append, steps, ih]
      rfl

theorem length_steps (session : Session) (steps : List Step) :
    (session.steps steps).length = steps.length := by
  induction steps generalizing session with
  | nil => rfl
  | cons step rest ih => simp [Session.steps, ih]

theorem getElem?_steps (session : Session) (before : List Step) (step : Step) (later : List Step) :
    (session.steps (before ++ step :: later))[before.length]? =
      some ((session.after before).step step) := by
  rw [steps_append, ← length_steps session before, List.getElem?_append_right (Nat.le_refl _),
    Nat.sub_self]
  rfl

end Session

open Session in
/-- What a whole session keeps. Its gate is the one chosen by the steps that choose one, in their order,
and no check has a part in it. Every step is answered at its place, and every report among the answers is
one on the gate of that moment and bears itself out. -/
theorem session_reports_truthful (gate : Gate) (steps : List Step) :
    let session : Session := { gate }
    (session.after steps).gate = (steps.filter Step.chooses).foldl Step.choice gate ∧
    (session.steps steps).length = steps.length ∧
    ∀ before step later, steps = before ++ step :: later →
      ∃ trace reply, (session.steps steps)[before.length]? =
          some (session.after (before ++ [step]), trace, reply) ∧
        Answers (session.after before) step reply := by
  intro session
  refine ⟨after_gate session steps, length_steps session steps, ?_⟩
  rintro before step later rfl
  have initially : session.LastTruthful := by
    intro report last
    cases last
  have next : session.after (before ++ [step]) = ((session.after before).step step).1 := by
    simp [after]
  refine ⟨((session.after before).step step).2.1, ((session.after before).step step).2.2, ?_, ?_⟩
  · rw [getElem?_steps, next]
  · exact step_answers (after_lastTruthful initially before) step

open Session in
/-- A numeric check, a new gate, and the same check again, after one that failed: the second report is
lexical and turns the version down. -/
theorem session_reports_truthful_go :
    let output := "go version go10 linux/amd64\n"
    let before : List Step :=
      [.useComparison .numeric, .check "9" (.ok (.fixed output)), .reset, .check "9" (.ok (.fixed ""))]
    let step : Step := .check "9" (.ok (.fixed output))
    let steps := before ++ step :: [.ensure]
    ((({} : Session).after steps).gate = ⟨"go", .lexical⟩) ∧
      ∃ after trace report, (({} : Session).steps steps)[4]? =
          some (after, trace, .checked (.ok report)) ∧
        report.Truthful ⟨"go", .lexical⟩ "9" ∧
        report.ensureSatisfied = .error (.versionTooLow "go10" "go9") := by
  intro output before step steps
  obtain ⟨gate, _, answered⟩ := session_reports_truthful {} steps
  refine ⟨gate, ?_⟩
  obtain ⟨trace, reply, found, answers⟩ := answered before step [.ensure] rfl
  have asked : (installedVersion (.fixed "go version go10 linux/amd64\n")).result = .ok "go10" := rfl
  have reached : (({ toolchain := "go" } : Gate).check "9" (.fixed output)).result =
      .ok ⟨"go", "go9", "go10", .lexical, false⟩ :=
    Gate.check_eq_ok_iff.mpr ⟨"go10", .lt, asked, rfl, rfl⟩
  have same : reply = .checked (.ok ⟨"go", "go9", "go10", .lexical, false⟩) := by
    have computed := getElem?_steps {} before step [.ensure]
    rw [computed] at found
    cases found
    exact congrArg Reply.checked reached
  subst same
  change Answers _ (.check "9" (.ok (.fixed output))) _ at answers
  cases answers with
  | report asks asked truthful =>
      cases asks
      exact ⟨_, trace, _, found, truthful, rfl⟩

end VersionGate
