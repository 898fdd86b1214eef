import VersionGate.Proofs.Text.StyleSequence
import VersionGate.Proofs.Ui.Terminal

namespace VersionGate.Ui

open Text

def Style.IsGraphic (style : Style) : Prop :=
  ∀ code ∈ style.codes, ∀ c ∈ code.toList, isParameter c = true

theorem Style.sequence_showsAs {code : String} (parameters : ∀ c ∈ code.toList, isParameter c = true) :
    ShowsAs (sequence code).toList [] := by
  intro rest
  have written : (sequence code).toList ++ rest = escapeChar :: '[' :: (code.toList ++ 'm' :: rest) := by
    simp [sequence, escapeChar]
  rw [written, withoutStyles_of_style (afterStyle?_append parameters rest)]
  rfl

theorem Style.codes_showsAs {codes : List String} (graphic : IsGraphic ⟨codes⟩) :
    ShowsAs (String.join (codes.map sequence)).toList [] := by
  induction codes with
  | nil => exact showsAs_self List.not_mem_nil
  | cons code rest ih =>
      have first := sequence_showsAs (graphic code List.mem_cons_self)
      have later := ih fun other member => graphic other (List.mem_cons_of_mem _ member)
      rw [List.map_cons, String.join_cons, String.toList_append]
      exact first.append later

/-- A text in a style shows as it does in the plain style. -/
theorem Style.apply_showsAs {style : Style} (graphic : style.IsGraphic) {text : String}
    (free : escapeChar ∉ text.toList) (styling : Bool) :
    ShowsAs (style.apply styling text).toList (plain.apply styling text).toList := by
  have bare : ShowsAs text.toList text.toList := showsAs_self free
  rw [apply_plain]
  unfold apply
  split
  · exact bare
  · have opened := codes_showsAs graphic
    have closed : ShowsAs (sequence "0").toList [] := sequence_showsAs (by simp [isParameter])
    rw [String.toList_append, String.toList_append]
    simpa using (opened.append bare).append closed

structure Theme.IsGraphic (theme : Theme) : Prop where
  success : theme.success.IsGraphic
  warning : theme.warning.IsGraphic
  error : theme.error.IsGraphic
  dim : theme.dim.IsGraphic

theorem Theme.colored_isGraphic : colored.IsGraphic where
  success := by simp [Style.IsGraphic, colored, isParameter]
  warning := by simp [Style.IsGraphic, colored, isParameter]
  error := by simp [Style.IsGraphic, colored, isParameter]
  dim := by simp [Style.IsGraphic, colored, isParameter]

/-- What is written to either stream shows as something else, whatever is written after it. -/
structure Streams.ShowAs (styled plain : Streams) : Prop where
  stdout : ShowsAs styled.stdout.toList plain.stdout.toList
  stderr : ShowsAs styled.stderr.toList plain.stderr.toList

section Lines

variable {styled plain : String}

theorem line_showsAs (shows : ShowsAs styled.toList plain.toList) :
    ShowsAs (styled ++ "\n").toList (plain ++ "\n").toList := by
  rw [String.toList_append, String.toList_append]
  exact shows.append (showsAs_self (by decide))

namespace Streams.ShowAs

theorem empty : ({} : Streams).ShowAs {} where
  stdout := showsAs_self List.not_mem_nil
  stderr := showsAs_self List.not_mem_nil

theorem outLine (shows : ShowsAs styled.toList plain.toList) :
    (outLine styled).ShowAs (.outLine plain) where
  stdout := line_showsAs shows
  stderr := showsAs_self List.not_mem_nil

theorem errLine (shows : ShowsAs styled.toList plain.toList) :
    (errLine styled).ShowAs (.errLine plain) where
  stdout := showsAs_self List.not_mem_nil
  stderr := line_showsAs shows

theorem hidable {styled plain : Streams} (isShown : Bool) (shows : styled.ShowAs plain) :
    (if isShown then styled else {}).ShowAs (if isShown then plain else {}) := by
  cases isShown with
  | true => exact shows
  | false => exact empty

theorem append {styled plain laterStyled laterPlain : Streams} (front : styled.ShowAs plain)
    (later : laterStyled.ShowAs laterPlain) : (styled ++ laterStyled).ShowAs (plain ++ laterPlain) where
  stdout := by
    rw [stdout_append, stdout_append, String.toList_append, String.toList_append]
    exact front.stdout.append later.stdout
  stderr := by
    rw [stderr_append, stderr_append, String.toList_append, String.toList_append]
    exact front.stderr.append later.stderr

end Streams.ShowAs

end Lines

theorem escape_not_mem_append {front text : String} (first : escapeChar ∉ front.toList)
    (free : escapeChar ∉ text.toList) : escapeChar ∉ (front ++ text).toList := by
  simp [first, free]

namespace Terminal

variable {terminal : Terminal} {call : Call} {calls : List Call}

/-- The same terminal without styles. -/
def bare (terminal : Terminal) : Terminal :=
  { terminal with theme := .plain }

theorem write_showAs (graphic : terminal.theme.IsGraphic) (free : escapeChar ∉ call.text.toList) :
    (terminal.write call).ShowAs (terminal.bare.write call) := by
  obtain ⟨channel, text⟩ := call
  have unstyled : ShowsAs text.toList text.toList := showsAs_self free
  cases channel with
  | message => exact .hidable _ (.outLine unstyled)
  | detail => exact .hidable _ (.outLine (Style.apply_showsAs graphic.dim free _))
  | success =>
      exact .hidable _ (.outLine
        (Style.apply_showsAs graphic.success (escape_not_mem_append (by decide) free) _))
  | warning =>
      exact .errLine (Style.apply_showsAs graphic.warning (escape_not_mem_append (by decide) free) _)
  | error =>
      exact .errLine (Style.apply_showsAs graphic.error (escape_not_mem_append (by decide) free) _)
  | failure => exact .outLine (Style.apply_showsAs graphic.error free _)
  | data => exact .outLine unstyled

theorem writeAll_cons (terminal : Terminal) (call : Call) (rest : List Call) :
    terminal.writeAll (call :: rest) = terminal.write call ++ terminal.writeAll rest := by
  unfold writeAll
  rw [Streams.foldl_append_eq, Streams.foldl_append_eq, List.map_cons, List.map_cons, String.join_cons,
    String.join_cons, String.empty_append, String.empty_append, String.empty_append, String.empty_append]
  rfl

theorem writeAll_showAs (graphic : terminal.theme.IsGraphic)
    (free : ∀ call ∈ calls, escapeChar ∉ call.text.toList) :
    (terminal.writeAll calls).ShowAs (terminal.bare.writeAll calls) := by
  induction calls with
  | nil => exact .empty
  | cons call rest ih =>
      have first := write_showAs graphic (free call List.mem_cons_self)
      have later := ih fun other member => free other (List.mem_cons_of_mem _ member)
      rw [writeAll_cons, writeAll_cons]
      exact first.append later

/-- With styling off a terminal writes no styles, whatever its theme. -/
theorem write_of_no_styling (off : terminal.styling = false) (call : Call) :
    terminal.write call = terminal.bare.write call := by
  obtain ⟨mode, theme, styling⟩ := terminal
  cases off
  obtain ⟨channel, text⟩ := call
  cases channel <;> rfl

theorem writeAll_of_no_styling (off : terminal.styling = false) (calls : List Call) :
    terminal.writeAll calls = terminal.bare.writeAll calls := by
  unfold writeAll
  simp only [write_of_no_styling off]

end Terminal

theorem Call.escape_not_mem_line {call : Call} (free : escapeChar ∉ call.text.toList) :
    escapeChar ∉ call.line.toList := by
  have icon : ∀ icon ∈ ["✓ ", "⚠ ", "✗ ", "", "\n"], escapeChar ∉ icon.toList := by decide
  unfold line
  refine escape_not_mem_append (escape_not_mem_append ?_ free) (icon _ (by simp))
  split <;> exact icon _ (by simp)

theorem escape_not_mem_lines {calls : List Call}
    (free : ∀ call ∈ calls, escapeChar ∉ call.text.toList) (shown : Call → Bool) :
    escapeChar ∉ (String.join ((calls.filter shown).map (·.line))).toList := by
  rw [String.toList_join]
  intro escaped
  obtain ⟨line, isLine, member⟩ := List.mem_flatMap.mp escaped
  obtain ⟨call, said, rfl⟩ := List.mem_map.mp isLine
  exact Call.escape_not_mem_line (free call (List.mem_of_mem_filter said)) member

/-- The channels whose texts go to standard output in every mode. -/
def Channel.lasts (channel : Channel) : Bool :=
  channel = .failure || channel = .data

/-- Colors change nothing in what a terminal shows for texts without escape characters. Less its style
sequences, either stream of a colored terminal is that of a plain one, and with styling off it has none to begin
with. The plain streams are the lines of the calls in their order: standard output has those that the mode
lets through, failures and data always among them, and standard error all warnings and errors. -/
theorem coloring_transparent (mode : Mode) (styling : Bool) (calls : List Call)
    (free : ∀ call ∈ calls, escapeChar ∉ call.text.toList) :
    let colored := Terminal.writeAll ⟨mode, .ofColors true, styling⟩ calls
    let plain := Terminal.writeAll ⟨mode, .ofColors false, styling⟩ calls
    let printed := calls.filter (mode.prints ·.channel)
    let complaints := calls.filter (·.channel.complains)
    removeStyles colored.stdout = plain.stdout ∧ removeStyles colored.stderr = plain.stderr ∧
      (styling = false → escapeChar ∉ colored.stdout.toList ∧ escapeChar ∉ colored.stderr.toList) ∧
      plain.stdout = String.join (printed.map (·.line)) ∧
      plain.stderr = String.join (complaints.map (·.line)) ∧
      printed.filter (·.channel.lasts) = calls.filter (·.channel.lasts) ∧
      printed.filter (·.channel.complains) = [] ∧ complaints.filter (·.channel.lasts) = [] := by
  intro colored plain printed complaints
  let terminal : Terminal := ⟨mode, .colored, styling⟩
  have shows : colored.ShowAs plain := terminal.writeAll_showAs Theme.colored_isGraphic free
  have lines : plain = { stdout := _, stderr := _ } := Terminal.writeAll_of_plain rfl calls
  have stdout : plain.stdout = _ := congrArg (·.stdout) lines
  have stderr : plain.stderr = _ := congrArg (·.stderr) lines
  refine ⟨?_, ?_, fun off => ?_, stdout, stderr, ?_, ?_, ?_⟩
  · rw [removeStyles, shows.stdout.withoutStyles_eq, String.ofList_toList]
  · rw [removeStyles, shows.stderr.withoutStyles_eq, String.ofList_toList]
  · -- Then the colored terminal is the plain one, whose lines are icons and texts.
    have same : colored = plain := terminal.writeAll_of_no_styling off calls
    rw [same, stdout, stderr]
    exact ⟨escape_not_mem_lines free _, escape_not_mem_lines free _⟩
  · rw [List.filter_filter]
    refine List.filter_congr fun call _ => ?_
    cases call.channel <;> simp [Channel.lasts, Mode.prints]
  · rw [List.filter_filter, List.filter_eq_nil_iff]
    intro call _
    cases call.channel <;> simp [Channel.complains, Mode.prints]
  · rw [List.filter_filter, List.filter_eq_nil_iff]
    intro call _
    cases call.channel <;> simp [Channel.lasts, Channel.complains]

/-- A verbose terminal on a warned success, with styling on and off. The same calls in the quiet mode leave
the warning alone. -/
theorem coloring_transparent_warned :
    let calls : List Call := [⟨.message, "expect_version: go1.10"⟩, ⟨.detail, "query: go version"⟩,
      ⟨.warning, "go1.9 vs go1.10"⟩, ⟨.success, "go1.9 satisfies go1.10"⟩]
    let colored mode styling := Terminal.writeAll ⟨mode, .ofColors true, styling⟩ calls
    (∀ call ∈ calls, escapeChar ∉ call.text.toList) ∧
      (colored .verbose true).stdout = "expect_version: go1.10\n\x1b[2mquery: go version\x1b[0m\n" ++
        "\x1b[32m✓ go1.9 satisfies go1.10\x1b[0m\n" ∧
      removeStyles (colored .verbose true).stdout =
        "expect_version: go1.10\nquery: go version\n✓ go1.9 satisfies go1.10\n" ∧
      (colored .quiet true).stderr = "\x1b[38;5;208m⚠ go1.9 vs go1.10\x1b[0m\n" ∧
      removeStyles (colored .quiet true).stderr = "⚠ go1.9 vs go1.10\n" ∧
      escapeChar ∉ (colored .verbose false).stdout.toList := by
  intro calls colored
  have free : ∀ call ∈ calls, escapeChar ∉ call.text.toList := by decide
  obtain ⟨stdout, -, -, printed, -⟩ := coloring_transparent .verbose true calls free
  obtain ⟨-, stderr, -, -, complaints, -⟩ := coloring_transparent .quiet true calls free
  obtain ⟨-, -, unescaped, -⟩ := coloring_transparent .verbose false calls free
  exact ⟨free, by decide, stdout.trans (printed.trans (by decide)), by decide,
    stderr.trans (complaints.trans (by decide)), (unescaped rfl).1⟩

end VersionGate.Ui
