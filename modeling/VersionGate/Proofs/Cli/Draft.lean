import VersionGate.Cli.Draft
import VersionGate.Proofs.Cli.Word

/-!
Reading a command line, word by word.

The value in a word of its own is examined only when the next word is read. What a draft comes to is
therefore said of it once it is settled, and each kind of word has one lemma that says what is read of
it then.
-/

namespace VersionGate.Cli

section

variable {ε α β : Type} {run : Except ε α} {next : α → Except ε β} {value : α} {result : β}

@[simp] theorem ok_bind : (.ok value : Except ε α) >>= next = next value := rfl

theorem bind_eq_ok_iff :
    run >>= next = .ok result ↔ ∃ value, run = .ok value ∧ next value = .ok result := by
  cases run with
  | error error => exact ⟨nofun, nofun⟩
  | ok value => simp

end

namespace Draft

variable {draft base next : Draft} {text name value : String} {attached : Option String}
  {letters : List Char} {setting : Setting} {switch : Switch}

@[simp] theorem orHalt_ok {α : Type} (value : α) : orHalt (.ok value) = .ok value := rfl

@[simp] theorem orHalt_error {α : Type} (error : UsageError) :
    (orHalt (.error error) : Except Halt α) = .error (.usage error) := rfl

theorem orHalt_eq_ok_iff {α : Type} {result : Except UsageError α} {value : α} :
    orHalt result = .ok value ↔ result = .ok value := by
  cases result with
  | error error => simp
  | ok other => simp

theorem read_of_terminator (draft : Draft) (rest : List String) :
    draft.read ("--" :: rest) = orHalt (draft.readPositionals rest) := rfl

theorem read_of_long (shape : Word.ofString text = .long name attached) (rest : List String) :
    draft.read (text :: rest) = draft.readLong name attached >>= (·.read rest) := by
  simp only [read, shape]

theorem read_of_cluster (shape : Word.ofString text = .cluster letters) (rest : List String) :
    draft.read (text :: rest) = draft.readLetters letters >>= (·.read rest) := by
  simp only [read, shape]

theorem read_of_plain (shape : Word.ofString text = .plain text) (rest : List String) :
    draft.read (text :: rest) = orHalt (draft.readPlain text) >>= (·.read rest) := by
  simp only [read, shape]

theorem readLong_attached (draft : Draft) (setting : Setting) (value : String) :
    draft.readLong setting.flag (some value) = orHalt (draft.readAttached setting value) := by
  simp only [readLong, Opt.ofLong?_setting]

theorem readLong_awaiting (draft : Draft) (setting : Setting) :
    draft.readLong setting.flag none = orHalt (draft.readAwaiting setting) := by
  simp only [readLong, Opt.ofLong?_setting]

theorem readLong_switch (draft : Draft) (switch : Switch) :
    draft.readLong switch.flag none = orHalt (draft.readSwitch switch) := by
  simp only [readLong, Opt.ofLong?_switch]

theorem settle_of_none (nothing : draft.pending = none) : draft.settle = .ok draft := by
  simp only [settle, nothing]

theorem assign_pending (assigned : draft.assign setting value = .ok next) :
    next.pending = draft.pending := by
  unfold assign at assigned
  split at assigned
  · cases assigned
    rfl
  · cases assigned
    rfl
  · split at assigned <;> cases assigned
    rfl
  · split at assigned <;> cases assigned
    rfl

theorem accept_of_free (free : draft.isSet setting = false) :
    draft.accept setting value = draft.assign setting value := by
  simp [accept, free]

theorem settle_pending (settled : draft.settle = .ok base) : base.pending = none := by
  unfold settle at settled
  split at settled
  · rename_i nothing
    cases settled
    exact nothing
  · cases settled
  · unfold accept at settled
    split at settled
    · cases settled
    · exact assign_pending settled

/-- A value of its own is examined as an attached one is, only later. -/
theorem settle_of_value (nothing : base.pending = none) (free : base.isSet setting = false) :
    { base with pending := some ⟨setting, some value⟩ }.settle = base.assign setting value := by
  obtain ⟨toolchain, query, compare, completions, json, verbose, quiet, noColor, debug, positionals,
    pending⟩ := base
  cases nothing
  exact accept_of_free free

section Settled

variable (settled : draft.settle = .ok base)

include settled

theorem readSwitch_of_settle (off : base.isOn switch = false) :
    draft.readSwitch switch = .ok (base.turnOn switch) := by
  simp only [readSwitch, settled]
  change (if base.isOn switch = true then _ else _) = _
  simp [off]
  rfl

theorem readAttached_of_settle (free : base.isSet setting = false) :
    draft.readAttached setting value = base.assign setting value := by
  simp only [readAttached, settled]
  exact accept_of_free free

theorem readAwaiting_of_settle :
    draft.readAwaiting setting = .ok { base with pending := some ⟨setting, none⟩ } := by
  simp only [readAwaiting, settled]
  rfl

theorem readPositional_of_settle :
    draft.readPositional text = .ok { base with positionals := base.positionals ++ [text] } := by
  simp only [readPositional, settled]
  rfl

/-- A plain word is a positional unless a value is due. -/
theorem readPlain_of_settle :
    draft.readPlain text = .ok { base with positionals := base.positionals ++ [text] } := by
  unfold readPlain
  split
  · rename_i due
    simp [settle, due] at settled
  · exact readPositional_of_settle settled

theorem readPositionals_of_settle (texts : List String) :
    draft.readPositionals texts = .ok { base with positionals := base.positionals ++ texts } := by
  induction texts generalizing draft base with
  | nil => simpa [readPositionals] using settled
  | cons text rest ih =>
      let longer := { base with positionals := base.positionals ++ [text] }
      have nothing : base.pending = none := settle_pending settled
      have ready : longer.settle = .ok longer := settle_of_none nothing
      simp only [readPositionals, readPositional_of_settle settled]
      simpa [longer] using ih ready

end Settled

section Environment

variable {environment : Environment}

theorem fill_of_isSet (given : draft.isSet setting = true) :
    draft.fill environment setting = .ok draft := by
  simp only [fill, given]

theorem fill_of_unset (unset : setting.envName?.bind environment = none) :
    draft.fill environment setting = .ok draft := by
  unfold fill
  rw [unset]
  cases draft.isSet setting <;> rfl

theorem fill_of_free (free : draft.isSet setting = false)
    (found : setting.envName?.bind environment = some value) :
    draft.fill environment setting = draft.assign setting value := by
  simp only [fill, free, found]

end Environment

end Draft

end VersionGate.Cli
