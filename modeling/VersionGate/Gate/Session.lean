import VersionGate.Gate

namespace VersionGate

/-- A gate that is used again and again, with the report of its last check, if that check came to
one. -/
structure Session where
  gate : Gate := {}
  last : Option Report := none

namespace Session

inductive Step where
  | renew (toolchain : String)
  | reset
  | useComparison (comparison : Comparison)
  | showRequired (suffix : String)
  | check (suffix : String) (source : Except GateError Source)
  | ensure
  /-- A check of an output that reports exactly the version required by the last report. -/
  | recheck (suffix : String)

inductive Reply where
  | done
  | required (version : String)
  | checked (result : Except GateError Report)
  | verdict (result : Except GateError Unit)
  | noReport

/-- The session after a step, the trace the step leaves, and the answer to it. A check whose source could
not be made never takes place, so it leaves the last report as it is. -/
def step (session : Session) : Step → Session × List Event × Reply
  | .renew toolchain => ({ session with gate := { toolchain } }, [], .done)
  | .reset => ({ session with gate := {} }, [], .done)
  | .useComparison comparison =>
    ({ session with gate := session.gate.withComparison comparison }, [], .done)
  | .showRequired suffix => (session, [], .required (session.gate.requiredVersion suffix))
  | .check suffix (.ok source) =>
    let run := session.gate.check suffix source
    ({ session with last := run.result.toOption }, run.events, .checked run.result)
  | .check _ (.error error) => (session, [], .checked (.error error))
  | .ensure =>
    (session, [], match session.last with
      | some report => .verdict report.ensureSatisfied
      | none => .noReport)
  | .recheck suffix =>
    match session.last with
    | some report =>
      let run := session.gate.check suffix (.fixed ("x y " ++ report.required))
      (session, run.events, .checked run.result)
    | none => (session, [], .noReport)

def steps (session : Session) : List Step → List (Session × List Event × Reply)
  | [] => []
  | step :: rest =>
    let after := session.step step
    after :: after.1.steps rest

end Session

end VersionGate
