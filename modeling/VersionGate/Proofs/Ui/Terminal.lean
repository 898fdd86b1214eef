import VersionGate.Ui.Terminal

namespace VersionGate.Ui

theorem Streams.stdout_append (first second : Streams) :
    (first ++ second).stdout = first.stdout ++ second.stdout := rfl

theorem Streams.stderr_append (first second : Streams) :
    (first ++ second).stderr = first.stderr ++ second.stderr := rfl

/-- Writing one thing after the other leaves on either stream the texts that each of them writes there. -/
theorem Streams.foldl_append_eq {α : Type} (write : α → Streams) (items : List α)
    (written : Streams) :
    items.foldl (fun written item => written ++ write item) written =
      { stdout := written.stdout ++ String.join (items.map fun item => (write item).stdout)
        stderr := written.stderr ++ String.join (items.map fun item => (write item).stderr) } := by
  induction items generalizing written with
  | nil => simp
  | cons item rest ih =>
      rw [List.foldl_cons, ih, List.map_cons, List.map_cons, String.join_cons, String.join_cons,
        ← String.append_assoc, ← String.append_assoc]
      rfl

def Mode.prints (mode : Mode) : Channel → Bool
  | .message => mode ≠ .quiet
  | .success => mode ≠ .quiet
  | .detail => mode = .verbose
  | .failure => true
  | .data => true
  | .warning => false
  | .error => false

def Channel.complains (channel : Channel) : Bool :=
  channel = .warning || channel = .error

/-- A call as a line without styles. -/
def Call.line (call : Call) : String :=
  (match call.channel with
    | .success => "✓ "
    | .warning => "⚠ "
    | .error => "✗ "
    | _ => "") ++ call.text ++ "\n"

theorem Call.line_ne_empty (call : Call) : call.line ≠ "" := by
  intro empty
  have length := congrArg String.length empty
  simp [line] at length

theorem filter_hidden {shown : Channel → Bool} {calls : List Call}
    (hidden : ∀ call ∈ calls, shown call.channel = false) :
    calls.filter (shown ·.channel) = [] :=
  List.filter_eq_nil_iff.mpr fun call member => by simp [hidden call member]

/-- Of calls that are shown as lines or not at all, the lines of those shown are left. -/
theorem filter_lines (shown : Call → Bool) (calls : List Call) :
    (calls.map fun call => if shown call then call.line else "").filter (· != "") =
      (calls.filter shown).map (·.line) := by
  induction calls with
  | nil => rfl
  | cons call rest ih =>
      cases first : shown call with
      | true => simp [first, call.line_ne_empty, ih]
      | false => simp [first, ih]

theorem join_filter_ne_empty (texts : List String) :
    String.join (texts.filter (· != "")) = String.join texts := by
  induction texts with
  | nil => rfl
  | cons text rest ih =>
      by_cases empty : text = ""
      · simp [empty, ih]
      · simp [empty, ih]

theorem Style.apply_plain (styling : Bool) (text : String) : plain.apply styling text = text := by
  simp [apply, plain]

theorem Terminal.write_of_plain {terminal : Terminal} (plain : terminal.theme = .plain)
    (call : Call) :
    terminal.write call =
      { stdout := if terminal.mode.prints call.channel then call.line else ""
        stderr := if call.channel.complains then call.line else "" } := by
  obtain ⟨mode, theme, styling⟩ := terminal
  cases plain
  obtain ⟨channel, text⟩ := call
  cases channel <;> cases mode <;>
    simp [write, Mode.prints, Mode.showsStatus, Mode.showsDetail, Channel.complains, Call.line,
      Theme.detailLine, Theme.successLine, Theme.warningLine, Theme.errorLine, Theme.failureLine,
      Style.apply_plain, Streams.outLine, Streams.errLine]

/-- A terminal without styles writes the lines of the calls that its mode lets through. -/
theorem Terminal.writeAll_of_plain {terminal : Terminal} (plain : terminal.theme = .plain)
    (calls : List Call) :
    terminal.writeAll calls =
      { stdout := String.join ((calls.filter (terminal.mode.prints ·.channel)).map (·.line))
        stderr := String.join ((calls.filter (·.channel.complains)).map (·.line)) } := by
  unfold writeAll
  rw [Streams.foldl_append_eq]
  simp only [write_of_plain plain, String.empty_append]
  rw [← filter_lines, ← filter_lines, join_filter_ne_empty, join_filter_ne_empty]

/-- Without a terminal there are no styles, whatever the user and the surroundings ask for. -/
theorem Terminal.ofProcess_plain {surroundings : Surroundings} (mode : Mode) (noColor : Bool)
    (piped : surroundings.isTerminal = false) :
    (ofProcess surroundings mode noColor).theme = .plain := by
  simp [ofProcess, Surroundings.usesColors, piped, Theme.ofColors]

end VersionGate.Ui
