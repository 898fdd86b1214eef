import VersionGate.Proofs.Gate
import VersionGate.Proofs.Text.Decoding
import VersionGate.Proofs.VersionLine.Grammar

namespace VersionGate

variable {host other : Host} {command : CommandLine} {child otherChild : Child}

theorem outputText_append_feed (line rest : List UInt8) :
    outputText (line ++ 0x0A :: rest) = outputText line ++ "\n" ++ outputText rest := by
  have split := Text.Utf8.decode_append_ascii (show (0x0A : UInt8) < 0x80 by decide) line rest
  rw [← String.toList_inj]
  simpa [outputText] using split

theorem outputText_encode (text : String) : outputText (Text.Utf8.encode text.toList) = text := by
  rw [outputText, Text.Utf8.decode_encode, String.ofList_toList]

theorem failureText_congr {finished otherFinished : Finished}
    (sameStatus : finished.status = otherFinished.status)
    (sameComplaint : finished.stderr = otherFinished.stderr) :
    failureText finished = failureText otherFinished := by
  unfold failureText
  rw [sameStatus, sameComplaint]

theorem installedVersion_result_of_child (started : host command = .ok child) :
    (installedVersion (.ofCommand host command)).result =
      (reportedVersion (outputText child.stdout)).mapError fun reason =>
        .queryFailed command.display (if child.status.isSuccess then reason.message
          else failureText ⟨child.status, outputText child.stdout, outputText child.stderr⟩) := by
  cases read : reportedVersion (outputText child.stdout) with
  | ok version => rw [installedVersion_of_version started read, Except.mapError]
  | error reason =>
      cases ending : child.status.isSuccess with
      | true => rw [installedVersion_of_unread started ending read, Except.mapError, if_pos rfl]
      | false =>
          rw [installedVersion_of_failure started ending read, Except.mapError,
            if_neg Bool.false_ne_true]

/-- The answer of a query command depends on the output of its child only through the version read from it. -/
theorem installedVersion_congr (started : host command = .ok child)
    (otherStarted : other command = .ok otherChild) (sameStatus : child.status = otherChild.status)
    (sameComplaint : child.stderr = otherChild.stderr)
    (same : reportedVersion (outputText child.stdout) =
      reportedVersion (outputText otherChild.stdout)) :
    (installedVersion (.ofCommand host command)).result =
      (installedVersion (.ofCommand other command)).result := by
  have sameText := @failureText_congr
    ⟨child.status, outputText child.stdout, outputText child.stderr⟩
    ⟨otherChild.status, outputText otherChild.stdout, outputText otherChild.stderr⟩
    sameStatus (congrArg outputText sameComplaint)
  rw [installedVersion_result_of_child started, installedVersion_result_of_child otherStarted, same,
    sameText, sameStatus]

/-- What a child writes after its first line feed has no part in the answer of the query, be it text or not,
and however the bytes before that line feed break off. The answer is the version of the line itself where
the line is text. -/
theorem installedVersion_of_first_line (command : CommandLine) (status : ExitStatus)
    (line rest otherRest complaint : List UInt8)
    (started : host command = .ok ⟨status, line ++ 0x0A :: rest, complaint⟩)
    (otherStarted : other command = .ok ⟨status, line ++ 0x0A :: otherRest, complaint⟩) :
    (installedVersion (.ofCommand host command)).result =
      (installedVersion (.ofCommand other command)).result ∧
    (∀ text : String, line = Text.Utf8.encode text.toList → ∀ version,
      (installedVersion (.ofCommand host command)).result = .ok version ↔
        reportedVersion (text ++ "\n") = .ok version) ∧
    outputText (line ++ 0x0A :: rest) = outputText line ++ "\n" ++ outputText rest ∧
    ∀ (gate : Gate) (suffix : String), (gate.check suffix (.ofCommand host command)).result =
      (gate.check suffix (.ofCommand other command)).result := by
  have same : (installedVersion (.ofCommand host command)).result =
      (installedVersion (.ofCommand other command)).result := by
    refine installedVersion_congr started otherStarted rfl rfl ?_
    simp only [outputText_append_feed]
    exact reportedVersion_append_feed _ _ _
  refine ⟨same, ?_, outputText_append_feed line rest, fun gate suffix => ?_⟩
  · rintro text rfl version
    rw [installedVersion_eq_ok_iff, started]
    have alone := reportedVersion_append_feed text (outputText rest) ""
    rw [String.append_empty] at alone
    simp [outputText_append_feed, outputText_encode, alone]
  · rw [gate.check_result, gate.check_result, same]

/-- A line that breaks off inside a character keeps its line feed, and the bytes after it, which are no text
at all, change nothing. -/
theorem installedVersion_of_first_line_broken :
    let command : CommandLine := ⟨"go", ["version"]⟩
    let host (output : List UInt8) : Host := fun _ => .ok ⟨.exited 0, output, []⟩
    let answer (output : List UInt8) := (installedVersion (.ofCommand (host output) command)).result
    let whole := Text.Utf8.encode "go version go1.21 é".toList
    let broken := whole.dropLast
    answer (whole ++ 0x0A :: [0xFF, 0xE2]) = .ok "go1.21" ∧
      answer (broken ++ 0x0A :: [0xFF]) = answer (broken ++ 0x0A :: []) ∧
      outputText (broken ++ 0x0A :: [0xFF]) = "go version go1.21 \ufffd\n\ufffd" := by
  intro command host answer whole broken
  obtain ⟨_, version, _⟩ := @installedVersion_of_first_line (host (whole ++ 0x0A :: [0xFF, 0xE2]))
    (host (whole ++ 0x0A :: [])) command (.exited 0) whole _ _ [] rfl rfl
  obtain ⟨same, _, split, _⟩ := @installedVersion_of_first_line (host (broken ++ 0x0A :: [0xFF]))
    (host (broken ++ 0x0A :: [])) command (.exited 0) broken _ _ [] rfl rfl
  have line : outputText broken = "go version go1.21 \ufffd" := by decide
  have later : outputText [0xFF] = "\ufffd" := by decide
  refine ⟨(version "go version go1.21 é" rfl "go1.21").mpr (by cbv), same, ?_⟩
  rw [split, line, later]
  decide

end VersionGate
