import VersionGate.Proofs.Text.Line
import VersionGate.Proofs.Text.Words
import VersionGate.Proofs.VersionLine

namespace VersionGate

open Text

/-- An output that reports a version, taken apart at the first three words of its first line. -/
structure VersionLine where
  indent : List Char
  first : List Char
  gap : List Char
  second : List Char
  space : List Char
  version : List Char
  rest : List Char
  indented : IsSpacing indent
  isFirst : IsWord first
  apart : gap ≠ []
  isGap : IsSpacing gap
  isSecond : IsWord second
  away : space ≠ []
  isSpace : IsSpacing space
  isVersion : IsWord version
  ends : EndsWord rest

namespace VersionLine

variable {line other : VersionLine}

def text (line : VersionLine) : List Char :=
  line.indent ++ (line.first ++ (line.gap ++ (line.second ++ (line.space ++
    (line.version ++ line.rest)))))

def afterFirst (line : VersionLine) : List Char :=
  line.gap ++ (line.second ++ (line.space ++ (line.version ++ line.rest)))

def afterSecond (line : VersionLine) : List Char :=
  line.space ++ (line.version ++ line.rest)

theorem thirdWord (line : VersionLine) : ThirdWord line.text line.version :=
  .intro line.indented line.isFirst line.apart line.isGap line.isSecond line.away line.isSpace
    line.isVersion line.ends

theorem firstWord (line : VersionLine) :
    FirstWord line.text line.indent line.first line.afterFirst :=
  ⟨rfl, line.indented.blank, line.isFirst, .of_blanks line.apart line.isGap.blank⟩

theorem secondWord (line : VersionLine) :
    FirstWord line.afterFirst line.gap line.second line.afterSecond :=
  ⟨rfl, line.isGap.blank, line.isSecond, .of_blanks line.away line.isSpace.blank⟩

theorem lastWord (line : VersionLine) :
    FirstWord line.afterSecond line.space line.version line.rest :=
  ⟨rfl, line.isSpace.blank, line.isVersion, line.ends⟩

/-- An output can be taken apart in one way only. -/
theorem eq_of_text_eq (same : line.text = other.text) : line = other := by
  obtain ⟨indents, firsts, after⟩ := line.firstWord.unique (same ▸ other.firstWord)
  obtain ⟨gaps, seconds, later⟩ := line.secondWord.unique (after ▸ other.secondWord)
  obtain ⟨spaces, versions, rests⟩ := line.lastWord.unique (later ▸ other.lastWord)
  cases line
  cases other
  simp only [mk.injEq]
  exact ⟨indents, firsts, gaps, seconds, spaces, versions, rests⟩

end VersionLine

/-- A line with three words and more is taken apart at them, whatever follows the line. -/
theorem exists_versionLine {line after first second version : List Char}
    {later : List (List Char)} (single : '\n' ∉ line) (endsLine : EndsWord after)
    (read : words line = first :: second :: version :: later) :
    ∃ parts : VersionLine, parts.text = line ++ after ∧ parts.version = version := by
  obtain ⟨indent, afterFirst, ⟨rfl, indented, isFirst, ends⟩, readOn⟩ := words_eq_cons_iff.mp read
  obtain ⟨gap, afterSecond, ⟨rfl, isGap, isSecond, endsSecond⟩, readLast⟩ :=
    words_eq_cons_iff.mp readOn
  obtain ⟨space, rest, ⟨rfl, isSpace, isVersion, endsVersion⟩, _⟩ := words_eq_cons_iff.mp readLast
  simp only [List.mem_append, not_or] at single
  obtain ⟨indentSingle, _, gapSingle, _, spaceSingle, _, _⟩ := single
  refine ⟨⟨indent, first, gap, second, space, version, rest ++ after, ⟨indented, indentSingle⟩,
    isFirst, ends.gap_ne_nil isSecond, ⟨isGap, gapSingle⟩, isSecond, endsSecond.gap_ne_nil isVersion,
    ⟨isSpace, spaceSingle⟩, isVersion, endsVersion.append endsLine⟩, ?_, rfl⟩
  simp only [VersionLine.text, List.append_assoc]

/-- An output reports the third word of the text before its first line feed. -/
theorem reportedVersion_eq_ok_iff_words {output version : String} :
    reportedVersion output = .ok version ↔
      (words (output.toList.takeWhile (· ≠ '\n')))[2]? = some version.toList := by
  unfold reportedVersion
  cases found : firstLine? output.toList with
  | none =>
      rw [firstLine?_eq_none_iff.mp found]
      simp
  | some line =>
      rw [← words_firstLine found]
      cases third : (words line)[2]? with
      | none => simp [third]
      | some word => simp [third, ← String.toList_inj]

theorem reportedVersion_eq_ok_iff {output version : String} :
    reportedVersion output = .ok version ↔
      ∃ line : VersionLine, line.text = output.toList ∧ line.version = version.toList := by
  constructor
  · intro reported
    have third := reportedVersion_eq_ok_iff_words.mp reported
    obtain ⟨line, after, whole, single, feed⟩ := exists_line output.toList
    rw [whole, takeWhile_line single feed] at third
    have ends : EndsWord after := by
      intro c opening
      rw [feed c opening, isBlank_lineFeed]
    match read : words line with
    | [] | [_] | [_, _] => simp [read] at third
    | first :: second :: word :: later =>
        obtain ⟨parts, same, version⟩ := exists_versionLine single ends read
        rw [read] at third
        cases third
        exact ⟨parts, same.trans whole.symm, version⟩
  · rintro ⟨line, same, version⟩
    have third := line.thirdWord
    rw [same, version] at third
    exact third.reportedVersion_eq

/-- An output without a version is refused for being empty, or else for its first line. -/
theorem reportedVersion_cases (output : String) :
    (output = "" ∧ reportedVersion output = .error .noOutput) ∨
      ∃ first : String, FirstLine output.toList first.toList ∧
        ((∃ version, reportedVersion output = .ok version) ∨
          reportedVersion output = .error (.unexpectedLine first)) := by
  unfold reportedVersion
  cases found : firstLine? output.toList with
  | none => exact .inl ⟨by simpa using firstLine?_eq_none_iff.mp found, rfl⟩
  | some line =>
      refine .inr ⟨String.ofList line, by simpa using firstLine?_eq_some_iff.mp found, ?_⟩
      cases third : (words line)[2]? with
      | none => exact .inr (by simp only [third])
      | some word => exact .inl ⟨String.ofList word, by simp only [third]⟩

theorem reportedVersion_eq_noOutput_iff {output : String} :
    reportedVersion output = .error .noOutput ↔ output = "" := by
  constructor
  · intro refused
    rcases reportedVersion_cases output with ⟨empty, _⟩ | ⟨first, _, ⟨version, reported⟩ | refusal⟩
    · exact empty
    · simp [reported] at refused
    · simp [refusal] at refused
  · rintro rfl
    rfl

theorem reportedVersion_eq_unexpectedLine_iff {output first : String} :
    reportedVersion output = .error (.unexpectedLine first) ↔
      FirstLine output.toList first.toList ∧ ¬ ∃ line : VersionLine, line.text = output.toList := by
  constructor
  · intro refused
    refine ⟨?_, fun ⟨line, same⟩ => ?_⟩
    · rcases reportedVersion_cases output with ⟨_, refusal⟩ | ⟨other, isFirst, ⟨version, reported⟩ | refusal⟩
      · simp [refusal] at refused
      · simp [reported] at refused
      · rw [refusal] at refused
        cases refused
        exact isFirst
    · have reported : reportedVersion output = .ok (String.ofList line.version) :=
        reportedVersion_eq_ok_iff.mpr ⟨line, same, by simp⟩
      simp [reported] at refused
  · rintro ⟨isFirst, apart⟩
    rcases reportedVersion_cases output with ⟨rfl, _⟩ | ⟨other, isOther, ⟨version, reported⟩ | refusal⟩
    · have found := isFirst.firstLine?_eq
      simp [firstLine?] at found
    · obtain ⟨line, same, _⟩ := reportedVersion_eq_ok_iff.mp reported
      exact absurd ⟨line, same⟩ apart
    · have same := isFirst.firstLine?_eq.symm.trans isOther.firstLine?_eq
      rw [refusal, String.toList_inj.mp (Option.some_inj.mp same)]

theorem reportedVersion_append_feed (before rest other : String) :
    reportedVersion (before ++ "\n" ++ rest) = reportedVersion (before ++ "\n" ++ other) := by
  have same := firstLine?_append_feed before.toList rest.toList other.toList
  have chars (rest : String) :
      (before ++ "\n" ++ rest).toList = before.toList ++ '\n' :: rest.toList := by
    simp [String.toList_append]
  unfold reportedVersion
  rw [chars, chars, same]

theorem words_append_returnFeed (before rest : List Char) :
    words ((before ++ '\r' :: '\n' :: rest).takeWhile (· ≠ '\n')) =
      words ((before ++ '\n' :: rest).takeWhile (· ≠ '\n')) := by
  rcases single_or_feed before with single | ⟨line, later, rfl, single⟩
  · have within : '\n' ∉ before ++ ['\r'] := by simp [single]
    have split : before ++ '\r' :: '\n' :: rest = (before ++ ['\r']) ++ '\n' :: rest := by simp
    rw [split, takeWhile_feed within, takeWhile_feed single]
    exact words_append_blanks (by simp [isBlank_return])
  · simp only [List.append_assoc, List.cons_append, takeWhile_feed single]

theorem reportedVersion_append_returnFeed {before rest version : String} :
    reportedVersion (before ++ "\r\n" ++ rest) = .ok version ↔
      reportedVersion (before ++ "\n" ++ rest) = .ok version := by
  have fed : (before ++ "\n" ++ rest).toList = before.toList ++ '\n' :: rest.toList := by simp
  have returned :
      (before ++ "\r\n" ++ rest).toList = before.toList ++ '\r' :: '\n' :: rest.toList := by simp
  rw [reportedVersion_eq_ok_iff_words, reportedVersion_eq_ok_iff_words, fed, returned,
    words_append_returnFeed]

/-- The outputs that report a version are exactly those whose first line has three words, and there is one
way to take such an output apart. All others are refused, an empty one for being empty and any other one with
its first line in quotes. What follows the first line feed has no part in this, and the version is the same
with a carriage return before that line feed. -/
theorem version_line_grammar :
    (∀ output version, reportedVersion output = .ok version ↔
      ∃ line : VersionLine, line.text = output.toList ∧ line.version = version.toList) ∧
    (∀ line other : VersionLine, line.text = other.text → line = other) ∧
    (∀ output version, reportedVersion output = .ok version → IsWord version.toList) ∧
    (∀ before rest other,
      reportedVersion (before ++ "\n" ++ rest) = reportedVersion (before ++ "\n" ++ other)) ∧
    (∀ before rest version, reportedVersion (before ++ "\n" ++ rest) = .ok version →
      reportedVersion (before ++ "\r\n" ++ rest) = .ok version) ∧
    (∀ output, reportedVersion output = .error .noOutput ↔ output = "") ∧
    (∀ output first, reportedVersion output = .error (.unexpectedLine first) ↔
      FirstLine output.toList first.toList ∧ ¬ ∃ line : VersionLine, line.text = output.toList) ∧
    VersionLineError.noOutput.message = "command produced no output" ∧
    ∀ first, (VersionLineError.unexpectedLine first).message =
      "unexpected version line: " ++ quote first :=
  ⟨fun _ _ => reportedVersion_eq_ok_iff, fun _ _ => VersionLine.eq_of_text_eq,
    fun _ _ => isWord_of_reportedVersion, reportedVersion_append_feed,
    fun _ _ _ => reportedVersion_append_returnFeed.mpr, fun _ => reportedVersion_eq_noOutput_iff,
    fun _ _ => reportedVersion_eq_unexpectedLine_iff, rfl, fun _ => rfl⟩

/-- A line separator sets words apart and ends no line, so the first line here has three words, also with
a carriage return at its end. A blank line before it is refused. -/
theorem version_line_grammar_separators :
    let line := "\u0085go\u2028version\u000bgo1.21"
    reportedVersion (line ++ "\n" ++ "warning") = .ok "go1.21" ∧
      reportedVersion (line ++ "\r\n" ++ "warning") = .ok "go1.21" ∧ IsWord "go1.21".toList ∧
      reportedVersion (" \n" ++ line) = .error (.unexpectedLine " ") := by
  intro line
  obtain ⟨_, _, isWord, _, returned, _⟩ := version_line_grammar
  have reported : reportedVersion (line ++ "\n" ++ "warning") = .ok "go1.21" := by decide +kernel
  exact ⟨reported, returned line "warning" "go1.21" reported, isWord _ _ reported, by decide +kernel⟩

end VersionGate
