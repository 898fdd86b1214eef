import VersionGate.Proofs.Cli.Arrangement

/-!
Which settings a command line gives.

This is told from its words alone, up to the terminator. That a draft has the same settings once the
words are read is shown word by word: each kind of word adds the setting that it gives, whose value may
be due or not yet examined, and nothing takes a setting away.
-/

namespace VersionGate.Cli

/-- Letters one of which is the toolchain's, with nothing but switches before it. What follows it is its
value. -/
inductive Lettered : List Char → Prop where
  | here (value : List Char) : Lettered ('t' :: value)
  | later {letter : Char} {switch : Switch} {letters : List Char} (first : Letter letter switch)
      (more : Lettered letters) : Lettered (letter :: letters)

inductive Gives : Setting → String → Prop where
  | bare (setting : Setting) : Gives setting ("--" ++ setting.flag)
  | attached (setting : Setting) (value : String) :
      Gives setting ("--" ++ setting.flag ++ "=" ++ value)
  | lettered {letters : List Char} (among : Lettered letters) :
      Gives .toolchain (String.ofList ('-' :: letters))

/-- A setting occurs on a command line, before the terminator if there is one. -/
def Given (words : List String) (setting : Setting) : Prop :=
  ∃ text ∈ words.takeWhile (· ≠ "--"), Gives setting text

section Words

variable {setting : Setting} {text name : String} {attached : Option String} {letters : List Char}

theorem Lettered.exists_cons (lettered : Lettered letters) :
    ∃ letter rest, letters = letter :: rest ∧ letter ≠ '-' := by
  cases lettered with
  | here value => exact ⟨_, _, rfl, by decide⟩
  | later first _ => exact ⟨_, _, rfl, by cases first <;> decide⟩

theorem lettered_cons_iff {letter : Char} {switch : Switch} (first : Letter letter switch) :
    Lettered (letter :: letters) ↔ Lettered letters := by
  constructor
  · intro lettered
    cases lettered with
    | here => cases first
    | later _ more => exact more
  · exact .later first

theorem Gives.shape (gives : Gives setting text) :
    (∃ attached, Word.ofString text = .long setting.flag attached) ∨
      setting = .toolchain ∧ ∃ letters, Word.ofString text = .cluster letters ∧ Lettered letters := by
  cases gives with
  | bare =>
      exact .inl ⟨none, (Word.Spells.bare setting.flag_named setting.flag_noEquals).ofString_eq⟩
  | attached _ value =>
      exact .inl ⟨some value, (Word.Spells.attached setting.flag_noEquals value).ofString_eq⟩
  | lettered among =>
      obtain ⟨letter, rest, rfl, single⟩ := among.exists_cons
      exact .inr ⟨rfl, _, (Word.Spells.cluster single rest).ofString_eq, among⟩

theorem gives_long_iff (shape : Word.ofString text = .long name attached) :
    Gives setting text ↔ name = setting.flag := by
  have spells := Word.ofString_eq_iff.mp shape
  constructor
  · intro gives
    obtain ⟨_, same⟩ | ⟨_, _, other, _⟩ := gives.shape
    · cases shape.symm.trans same
      rfl
    · cases shape.symm.trans other
  · rintro rfl
    cases spells with
    | bare => exact .bare setting
    | attached _ value => exact .attached setting value

theorem gives_cluster_iff (shape : Word.ofString text = .cluster letters) :
    Gives setting text ↔ setting = .toolchain ∧ Lettered letters := by
  have spells := Word.ofString_eq_iff.mp shape
  constructor
  · intro gives
    obtain ⟨_, other⟩ | ⟨rfl, _, same, lettered⟩ := gives.shape
    · cases shape.symm.trans other
    · cases shape.symm.trans same
      exact ⟨rfl, lettered⟩
  · rintro ⟨rfl, lettered⟩
    cases spells with
    | cluster => exact .lettered lettered

theorem not_gives_plain {plain : String} (shape : Word.ofString text = .plain plain) :
    ¬ Gives setting text := by
  intro gives
  obtain ⟨_, other⟩ | ⟨_, _, other, _⟩ := gives.shape
  · cases shape.symm.trans other
  · cases shape.symm.trans other

variable {words : List String}

theorem not_given_terminator : ¬ Given ("--" :: words) setting := by
  simp [Given]

theorem given_cons_iff (onward : text ≠ "--") :
    Given (text :: words) setting ↔ Gives setting text ∨ Given words setting := by
  simp [Given, onward]

end Words

namespace Draft

variable {draft base next final : Draft} {setting other : Setting} {switch : Switch}
  {text value name : String} {attached : Option String} {letters : List Char} {words : List String}

/-- A setting has its value, or its value is due or not yet examined. -/
def Mentions (draft : Draft) (setting : Setting) : Prop :=
  draft.isSet setting = true ∨ ∃ value, draft.pending = some ⟨setting, value⟩

theorem mentions_of_nothing (nothing : draft.pending = none) :
    draft.Mentions setting ↔ draft.isSet setting = true := by
  simp [Mentions, nothing]

theorem assign_isSet (assigned : draft.assign setting value = .ok next) :
    next.isSet other = true ↔ draft.isSet other = true ∨ other = setting := by
  unfold assign at assigned
  split at assigned
  · cases assigned
    cases other <;> simp [isSet]
  · cases assigned
    cases other <;> simp [isSet]
  · split at assigned <;> cases assigned
    cases other <;> simp [isSet]
  · split at assigned <;> cases assigned
    cases other <;> simp [isSet]

theorem assign_of_accept (accepted : draft.accept setting value = .ok next) :
    draft.assign setting value = .ok next := by
  unfold accept at accepted
  split at accepted
  · cases accepted
  · exact accepted

theorem settle_isSet (settled : draft.settle = .ok base) :
    base.isSet setting = true ↔ draft.Mentions setting := by
  unfold settle at settled
  split at settled
  · rename_i nothing
    cases settled
    exact (mentions_of_nothing nothing).symm
  · cases settled
  · rename_i due text waiting
    rw [assign_isSet (assign_of_accept settled)]
    simp only [Mentions, waiting, Option.some.injEq, Pending.mk.injEq]
    constructor
    · rintro (before | rfl)
      · exact .inl before
      · exact .inr ⟨_, rfl, rfl⟩
    · rintro (before | ⟨_, rfl, -⟩)
      · exact .inl before
      · exact .inr rfl

theorem settle_mentions (settled : draft.settle = .ok base) :
    base.Mentions setting ↔ draft.Mentions setting := by
  rw [mentions_of_nothing (settle_pending settled), settle_isSet settled]

theorem readSwitch_mentions (read : draft.readSwitch switch = .ok next) :
    next.Mentions setting ↔ draft.Mentions setting := by
  obtain ⟨base, settled, read⟩ := bind_eq_ok_iff.mp read
  rw [← settle_mentions settled]
  split at read
  · cases read
  · cases read
    cases switch <;> cases setting <;> rfl

theorem readAttached_mentions (read : draft.readAttached other value = .ok next) :
    next.Mentions setting ↔ draft.Mentions setting ∨ setting = other := by
  obtain ⟨base, settled, accepted⟩ := bind_eq_ok_iff.mp read
  have assigned := assign_of_accept accepted
  have nothing := (assign_pending assigned).trans (settle_pending settled)
  rw [mentions_of_nothing nothing, assign_isSet assigned, settle_isSet settled]

theorem readAwaiting_mentions (read : draft.readAwaiting other = .ok next) :
    next.Mentions setting ↔ draft.Mentions setting ∨ setting = other := by
  obtain ⟨base, settled, read⟩ := bind_eq_ok_iff.mp read
  cases read
  rw [← settle_isSet settled]
  constructor
  · rintro (before | ⟨_, due⟩)
    · exact .inl before
    · cases due
      exact .inr rfl
  · rintro (before | rfl)
    · exact .inl before
    · exact .inr ⟨none, rfl⟩

theorem readPositional_mentions (read : draft.readPositional text = .ok next) :
    next.Mentions setting ↔ draft.Mentions setting := by
  obtain ⟨base, settled, read⟩ := bind_eq_ok_iff.mp read
  cases read
  rw [← settle_mentions settled]
  rfl

theorem readPlain_mentions (read : draft.readPlain text = .ok next) :
    next.Mentions setting ↔ draft.Mentions setting := by
  unfold readPlain at read
  split at read
  · rename_i due
    cases read
    simp [Mentions, isSet, due]
  · exact readPositional_mentions read

theorem readPositionals_isSet (read : draft.readPositionals words = .ok final) :
    final.isSet setting = true ↔ draft.Mentions setting := by
  induction words generalizing draft with
  | nil => exact settle_isSet read
  | cons text rest ih =>
      obtain ⟨next, first, later⟩ := bind_eq_ok_iff.mp read
      rw [ih later, readPositional_mentions first]

/-- The letters that are read are switches up to the toolchain's, and its value is not read as letters. -/
theorem readLetters_mentions (read : draft.readLetters letters = .ok next) :
    next.Mentions setting ↔ draft.Mentions setting ∨ setting = .toolchain ∧ Lettered letters := by
  induction letters generalizing draft with
  | nil =>
      cases read
      have none : ¬ Lettered [] := nofun
      simp [none]
  | cons letter rest ih =>
      unfold readLetters at read
      split at read
      · cases read
      · cases read
      · rename_i switch found
        have first := letter_iff.mpr found
        split at read
        · rename_i turned
          rw [ih read, readSwitch_mentions turned, lettered_cons_iff first]
        · cases read
      · rename_i other found
        obtain ⟨rfl, rfl⟩ := Opt.ofShort?_eq_setting_iff.mp found
        have lettered : Lettered ('t' :: rest) := .here rest
        simp only [lettered, and_true]
        split at read
        · exact readAwaiting_mentions (orHalt_eq_ok_iff.mp read)
        · exact readAttached_mentions (orHalt_eq_ok_iff.mp read)
        · exact readAttached_mentions (orHalt_eq_ok_iff.mp read)

theorem readLong_mentions (read : draft.readLong name attached = .ok next) :
    next.Mentions setting ↔ draft.Mentions setting ∨ name = setting.flag := by
  unfold readLong at read
  split at read
  · cases read
  · rename_i other value found
    obtain rfl := Opt.ofLong?_eq_setting_iff.mp found
    rw [readAttached_mentions (orHalt_eq_ok_iff.mp read), Setting.flag_inj, eq_comm (a := setting)]
  · rename_i other found
    obtain rfl := Opt.ofLong?_eq_setting_iff.mp found
    rw [readAwaiting_mentions (orHalt_eq_ok_iff.mp read), Setting.flag_inj, eq_comm (a := setting)]
  · cases read
  · rename_i switch found
    have other : name ≠ setting.flag := by
      rintro rfl
      rw [Opt.ofLong?_setting] at found
      cases found
    simp [readSwitch_mentions (orHalt_eq_ok_iff.mp read), other]
  · cases read

/-- Reading a whole command line adds the settings that occur on it. -/
theorem read_isSet (read : draft.read words = .ok final) :
    final.isSet setting = true ↔ draft.Mentions setting ∨ Given words setting := by
  induction words generalizing draft with
  | nil =>
      have settled := orHalt_eq_ok_iff.mp read
      simp [settle_isSet settled, Given]
  | cons text rest ih =>
      cases shape : Word.ofString text with
      | terminator =>
          cases Word.ofString_eq_iff.mp shape
          simp [readPositionals_isSet (orHalt_eq_ok_iff.mp read), not_given_terminator]
      | long name attached =>
          -- What the word gives is mentioned by the draft that the rest is read with.
          rw [read_of_long shape, bind_eq_ok_iff] at read
          obtain ⟨next, first, later⟩ := read
          have onward : text ≠ "--" := by rintro rfl; cases shape
          rw [ih later, readLong_mentions first, given_cons_iff onward, gives_long_iff shape, or_assoc]
      | cluster letters =>
          rw [read_of_cluster shape, bind_eq_ok_iff] at read
          obtain ⟨next, first, later⟩ := read
          have onward : text ≠ "--" := by rintro rfl; cases shape
          rw [ih later, readLetters_mentions first, given_cons_iff onward, gives_cluster_iff shape,
            or_assoc]
      | plain plain =>
          obtain rfl : plain = text := by
            cases Word.ofString_eq_iff.mp shape <;> rfl
          rw [read_of_plain shape, bind_eq_ok_iff] at read
          obtain ⟨next, first, later⟩ := read
          have onward : plain ≠ "--" := by rintro rfl; cases shape
          rw [ih later, readPlain_mentions (orHalt_eq_ok_iff.mp first), given_cons_iff onward]
          simp [not_gives_plain shape]

end Draft

/-- A command line that is read whole has the settings that occur on it. -/
theorem given_iff {words : List String} {draft : Draft} (read : ({} : Draft).read words = .ok draft)
    (setting : Setting) :
    Given words setting ↔ draft.isSet setting = true := by
  have nothing : ¬ ({} : Draft).Mentions setting := by
    rw [Draft.mentions_of_nothing rfl]
    cases setting <;> decide
  simp [Draft.read_isSet read, nothing]

end VersionGate.Cli
