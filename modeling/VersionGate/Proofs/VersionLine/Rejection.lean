import VersionGate.Proofs.Text.Quoted
import VersionGate.Proofs.VersionLine.Grammar

namespace VersionGate

open Text

variable {output line : String} {reason : VersionLineError}

namespace VersionLineError

theorem message_unexpectedLine (line : String) :
    (unexpectedLine line).message = "unexpected version line: " ++ quote line := rfl

theorem toList_message_unexpectedLine (line : String) :
    (unexpectedLine line).message.toList =
      "unexpected version line: ".toList ++
        '"' :: (line.toList.flatMap Quoted.encodeChar ++ ['"']) := by
  rw [message_unexpectedLine, String.toList_append, toList_quote]

theorem message_noOutput_ne (line : String) : noOutput.message ≠ (unexpectedLine line).message := by
  intro same
  have opening : noOutput.message.toList.head? = (unexpectedLine line).message.toList.head? := by
    rw [same]
  change "command produced no output".toList.head? =
    ("unexpected version line: " ++ quote line).toList.head? at opening
  simp at opening

theorem message_inj {other : VersionLineError} : reason.message = other.message ↔ reason = other := by
  refine ⟨fun same => ?_, fun same => by rw [same]⟩
  cases reason with
  | noOutput =>
      cases other with
      | noOutput => rfl
      | unexpectedLine line => exact absurd same (message_noOutput_ne line)
  | unexpectedLine line =>
      cases other with
      | noOutput => exact absurd same.symm (message_noOutput_ne line)
      | unexpectedLine other =>
          rw [message_unexpectedLine, message_unexpectedLine, String.append_right_inj] at same
          rw [quote_inj.mp same]

theorem message_noFeed (reason : VersionLineError) : '\n' ∉ reason.message.toList := by
  cases reason with
  | noOutput => decide +kernel
  | unexpectedLine line =>
      have opening : '\n' ∉ "unexpected version line: ".toList := by decide +kernel
      rw [message_unexpectedLine, String.toList_append, List.mem_append, not_or]
      exact ⟨opening, quote_noFeed line⟩

end VersionLineError

theorem firstLine_of_rejected (rejected : reportedVersion output = .error (.unexpectedLine line)) :
    FirstLine output.toList line.toList :=
  (reportedVersion_eq_unexpectedLine_iff.mp rejected).1

/-- What the message about an unexpected line says of it. The line stands in quotes, without any line break,
tab, null or further quote that would be one by itself, and undoing the escapes gives the first line of the
output again. No other rejection has the same message unless the first line is the same. -/
theorem rejected_line_quoted (rejected : reportedVersion output = .error (.unexpectedLine line)) :
    let message := (VersionLineError.unexpectedLine line).message
    (∃ body, message.toList = "unexpected version line: ".toList ++ '"' :: (body ++ ['"']) ∧
      Quoted.Inert body ∧ Quoted.decode body = some line.toList) ∧
    FirstLine output.toList line.toList ∧
    ∀ other reason, reportedVersion other = .error reason → reason.message = message →
      ∀ first, FirstLine other.toList first ↔ FirstLine output.toList first := by
  intro message
  have readBack := Quoted.decode_flatMap_encodeChar line.toList
  have isFirst := firstLine_of_rejected rejected
  refine ⟨⟨_, VersionLineError.toList_message_unexpectedLine line, Quoted.inert_of_decode readBack,
    readBack⟩, isFirst, ?_⟩
  intro other reason otherRejected same first
  rw [VersionLineError.message_inj.mp same] at otherRejected
  have otherFirst := firstLine_of_rejected otherRejected
  rw [← firstLine?_eq_some_iff, ← firstLine?_eq_some_iff, isFirst.firstLine?_eq,
    otherFirst.firstLine?_eq]

/-- A first line that itself looks like a quoted text with an escape in it, and an accent that would go
onto the quote. -/
theorem rejected_line_quoted_lookalike :
    let line := "\"\\u\x7b61\x7d\" \u0301"
    let body := "\\\"\\\\u\x7b61\x7d\\\" \\u\x7b301\x7d".toList
    reportedVersion (line ++ "\r\n" ++ "go version go1.21") = .error (.unexpectedLine line) ∧
      Quoted.Inert body ∧ Quoted.decode body = some line.toList := by
  intro line body
  have rejected : reportedVersion (line ++ "\r\n" ++ "go version go1.21") =
      .error (.unexpectedLine line) := by decide +kernel
  obtain ⟨⟨found, written, inert, readBack⟩, -⟩ := rejected_line_quoted rejected
  have message : (VersionLineError.unexpectedLine line).message.toList =
      "unexpected version line: ".toList ++ '"' :: (body ++ ['"']) := by decide +kernel
  rw [message, List.append_cancel_left_eq, List.cons_inj_right, List.append_cancel_right_eq] at written
  subst written
  exact ⟨rejected, inert, readBack⟩

end VersionGate
