import Mathlib.Data.List.DropRight
import VersionGate.Cli.Options
import VersionGate.Cli.Word

namespace VersionGate.Cli

variable {text name : String} {word : Word} {setting : Setting} {letter : Char}

namespace Word

/-- The ways to spell a word. -/
inductive Spells : Word → String → Prop where
  | terminator : Spells terminator "--"
  | bare {name : String} (named : name.toList ≠ []) (noEquals : '=' ∉ name.toList) :
      Spells (long name none) ("--" ++ name)
  | attached {name : String} (noEquals : '=' ∉ name.toList) (value : String) :
      Spells (long name (some value)) ("--" ++ name ++ "=" ++ value)
  | cluster {letter : Char} (single : letter ≠ '-') (letters : List Char) :
      Spells (cluster (letter :: letters)) (String.ofList ('-' :: letter :: letters))
  | dash : Spells (plain "-") "-"
  | plain {text : String} (noDash : text.toList.head? ≠ some '-') : Spells (plain text) text

theorem ofString_of_dashes {rest : List Char} (spelled : text.toList = '-' :: '-' :: rest)
    (more : rest ≠ []) :
    ofString text =
      match rest.drop (rest.takeWhile (· ≠ '=')).length with
      | [] => long (String.ofList (rest.takeWhile (· ≠ '='))) none
      | _ :: value => long (String.ofList (rest.takeWhile (· ≠ '='))) (some (String.ofList value)) := by
  obtain ⟨c, later, rfl⟩ := List.exists_cons_of_ne_nil more
  unfold ofString
  generalize text.toList = chars at spelled
  subst spelled
  rfl

theorem takeWhile_name {name : List Char} (noEquals : '=' ∉ name) (rest : List Char)
    (ends : rest.takeWhile (· ≠ '=') = []) : (name ++ rest).takeWhile (· ≠ '=') = name := by
  rw [List.takeWhile_append_of_pos, ends, List.append_nil]
  rintro c member
  simp only [decide_eq_true_eq]
  rintro rfl
  exact noEquals member

theorem Spells.ofString_eq (spells : Spells word text) : ofString text = word := by
  cases spells with
  | terminator => rfl
  | @bare name named noEquals =>
      have spelled : ("--" ++ name).toList = '-' :: '-' :: name.toList := by simp
      have whole := takeWhile_name noEquals [] rfl
      rw [List.append_nil] at whole
      rw [ofString_of_dashes spelled named, whole, List.drop_length]
      simp
  | @attached name noEquals value =>
      have spelled : ("--" ++ name ++ "=" ++ value).toList =
          '-' :: '-' :: (name.toList ++ '=' :: value.toList) := by simp
      have whole := takeWhile_name noEquals ('=' :: value.toList) (by simp)
      rw [ofString_of_dashes spelled (by simp), whole, List.drop_left]
      simp
  | cluster single letters => simp [ofString, single]
  | dash => rfl
  | plain noDash =>
      unfold ofString
      split <;> simp_all

theorem exists_spells_of_dashes {chars : List Char} (more : chars ≠ []) :
    ∃ word, Spells word (String.ofList ('-' :: '-' :: chars)) := by
  have split : chars.takeWhile (· ≠ '=') ++ chars.dropWhile (· ≠ '=') = chars :=
    List.takeWhile_append_dropWhile
  have noEquals : '=' ∉ chars.takeWhile (· ≠ '=') := by
    intro member
    simpa using List.mem_takeWhile_imp member
  have stops := List.head?_dropWhile_not (· ≠ '=') chars
  generalize chars.takeWhile (· ≠ '=') = name at split noEquals
  generalize chars.dropWhile (· ≠ '=') = after at split stops
  subst split
  have noEquals : '=' ∉ (String.ofList name).toList := by simpa
  match after with
  | [] =>
      have named : (String.ofList name).toList ≠ [] := by simpa using more
      have same : String.ofList ('-' :: '-' :: (name ++ [])) = "--" ++ String.ofList name :=
        String.toList_inj.mp (by simp)
      rw [same]
      exact ⟨_, .bare named noEquals⟩
  | c :: value =>
      obtain rfl : c = '=' := by simpa using stops
      have same : String.ofList ('-' :: '-' :: (name ++ '=' :: value)) =
          "--" ++ String.ofList name ++ "=" ++ String.ofList value :=
        String.toList_inj.mp (by simp)
      rw [same]
      exact ⟨_, .attached noEquals _⟩

theorem exists_spells (text : String) : ∃ word, Spells word text := by
  by_cases noDash : text.toList.head? = some '-'
  · obtain ⟨rest, dashed⟩ : ∃ rest, text.toList = '-' :: rest :=
      ⟨text.toList.tail, (List.cons_head?_tail noDash).symm⟩
    obtain rfl : text = String.ofList ('-' :: rest) := by
      rw [← dashed, String.ofList_toList]
    match rest with
    | [] => exact ⟨_, .dash⟩
    | letter :: letters =>
        by_cases double : letter = '-'
        · subst double
          cases letters with
          | nil => exact ⟨_, .terminator⟩
          | cons c rest => exact exists_spells_of_dashes (by simp)
        · exact ⟨_, .cluster double letters⟩
  · exact ⟨_, .plain noDash⟩

/-- A word is read as what it spells, and every word spells something. -/
theorem ofString_eq_iff : ofString text = word ↔ Spells word text := by
  refine ⟨?_, Spells.ofString_eq⟩
  rintro rfl
  obtain ⟨word, spells⟩ := exists_spells text
  rwa [spells.ofString_eq]

end Word

def Setting.flag : Setting → String
  | toolchain => "toolchain"
  | query => "query"
  | compare => "compare"
  | completions => "completions"

def Switch.flag : Switch → String
  | json => "json"
  | verbose => "verbose"
  | quiet => "quiet"
  | noColor => "no-color"
  | debug => "debug"

theorem Setting.flag_noEquals (setting : Setting) : '=' ∉ setting.flag.toList := by
  cases setting <;> decide

theorem Setting.flag_named (setting : Setting) : setting.flag.toList ≠ [] := by
  cases setting <;> decide

theorem Switch.flag_noEquals (switch : Switch) : '=' ∉ switch.flag.toList := by
  cases switch <;> decide

theorem Switch.flag_named (switch : Switch) : switch.flag.toList ≠ [] := by
  cases switch <;> decide

namespace Opt

theorem ofLong?_setting (setting : Setting) : ofLong? setting.flag = some (.setting setting) := by
  cases setting <;> rfl

theorem ofLong?_switch (switch : Switch) : ofLong? switch.flag = some (.switch switch) := by
  cases switch <;> rfl

theorem ofLong?_eq_setting_iff : ofLong? name = some (.setting setting) ↔ name = setting.flag := by
  constructor
  · intro found
    have same := List.find?_some found
    rw [beq_iff_eq] at same
    rw [← same]
    cases setting <;> rfl
  · rintro rfl
    exact ofLong?_setting setting

/-- The toolchain is the only setting with a letter. -/
theorem ofShort?_eq_setting_iff :
    ofShort? letter = some (.setting setting) ↔ letter = 't' ∧ setting = .toolchain := by
  constructor
  · intro found
    have same := List.find?_some found
    rw [beq_iff_eq] at same
    cases setting with
    | toolchain => exact ⟨(Option.some_inj.mp same).symm, rfl⟩
    | query | compare | completions => cases same
  · rintro ⟨rfl, rfl⟩
    rfl

end Opt

theorem Setting.flag_inj {other : Setting} : setting.flag = other.flag ↔ setting = other := by
  constructor
  · intro same
    have found := Opt.ofLong?_setting other
    rw [← same, Opt.ofLong?_setting] at found
    cases found
    rfl
  · rintro rfl
    rfl

end VersionGate.Cli
