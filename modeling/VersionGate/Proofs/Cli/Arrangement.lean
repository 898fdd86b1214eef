import Mathlib.Data.List.Forall2
import VersionGate.Proofs.Cli.Draft

/-!
Command lines in every arrangement.

What a command line asks for is a request, and a request can be written in many ways: its options in any
order and in either form, with the positionals between them or after a terminator. A request is built up
word by word here, from left to right, and each way to write the next word is one step; that all ways
are read alike follows by induction on the steps.
-/

namespace VersionGate.Cli

/-- What a command line can ask for. -/
structure Request where
  toolchain : Option String := none
  query : Option String := none
  compare : Option Comparison := none
  completions : Option Shell := none
  switches : List Switch := []
  positionals : List String := []

/-- A setting together with a value that it allows. -/
inductive Choice where
  | toolchain (name : String)
  | query (command : String)
  | compare (comparison : Comparison)
  | completions (shell : Shell)

namespace Choice

def setting : Choice → Setting
  | toolchain _ => .toolchain
  | query _ => .query
  | compare _ => .compare
  | completions _ => .completions

def text : Choice → String
  | toolchain name => name
  | query command => command
  | compare .lexical => "lexical"
  | compare .numeric => "numeric"
  | completions shell => shell.name

end Choice

namespace Request

def has (request : Request) : Setting → Bool
  | .toolchain => request.toolchain.isSome
  | .query => request.query.isSome
  | .compare => request.compare.isSome
  | .completions => request.completions.isSome

def choose (request : Request) : Choice → Request
  | .toolchain name => { request with toolchain := some name }
  | .query command => { request with query := some command }
  | .compare comparison => { request with compare := some comparison }
  | .completions shell => { request with completions := some shell }

def turnOn (request : Request) (switches : List Switch) : Request :=
  { request with switches := request.switches ++ switches }

def place (request : Request) (texts : List String) : Request :=
  { request with positionals := request.positionals ++ texts }

/-- The invocation that a request stands for: the first positional is the version, the others are kept
in order, and what is not chosen has its default. -/
def invocation (request : Request) : Invocation where
  check := {
    minVersion := request.positionals.head?
    extra := request.positionals.tail
    toolchain := request.toolchain.getD "go"
    query := request.query
    compare := request.compare.getD .lexical
    json := request.switches.contains .json }
  verbose := request.switches.contains .verbose
  quiet := request.switches.contains .quiet
  noColor := request.switches.contains .noColor
  debug := request.switches.contains .debug
  completions := request.completions

end Request

def Dashless (text : String) : Prop :=
  text.toList.head? ≠ some '-'

instance (text : String) : Decidable (Dashless text) :=
  inferInstanceAs (Decidable (text.toList.head? ≠ some '-'))

inductive Letter : Char → Switch → Prop where
  | verbose : Letter 'v' .verbose
  | quiet : Letter 'q' .quiet

theorem letter_iff {letter : Char} {switch : Switch} :
    Letter letter switch ↔ Opt.ofShort? letter = some (.switch switch) := by
  constructor
  · intro first
    cases first <;> rfl
  · intro found
    have same := List.find?_some found
    rw [beq_iff_eq] at same
    cases switch with
    | verbose =>
        cases same
        exact .verbose
    | quiet =>
        cases same
        exact .quiet
    | json | noColor | debug => cases same

/-- The ways to write a request, no option twice. A value in a word of its own and a positional must not
begin with a dash. -/
inductive Writes : Request → List String → Prop where
  | nothing : Writes {} []
  | attached {request : Request} {words : List String} (before : Writes request words)
      (choice : Choice) (fresh : request.has choice.setting = false) :
      Writes (request.choose choice) (words ++ ["--" ++ choice.setting.flag ++ "=" ++ choice.text])
  | apart {request : Request} {words : List String} (before : Writes request words)
      (choice : Choice) (fresh : request.has choice.setting = false) (dashless : Dashless choice.text) :
      Writes (request.choose choice) (words ++ ["--" ++ choice.setting.flag, choice.text])
  | lettered {request : Request} {words : List String} (before : Writes request words)
      (name : String) (fresh : request.has .toolchain = false) (dashless : Dashless name) :
      Writes (request.choose (.toolchain name)) (words ++ ["-t", name])
  | switched {request : Request} {words : List String} (before : Writes request words)
      (switch : Switch) (fresh : switch ∉ request.switches) :
      Writes (request.turnOn [switch]) (words ++ ["--" ++ switch.flag])
  /-- One letter or more after a single dash. -/
  | cluster {request : Request} {words : List String} (before : Writes request words)
      {letters : List Char} {switches : List Switch} (spelled : List.Forall₂ Letter letters switches)
      (some : letters ≠ []) (distinct : switches.Nodup)
      (fresh : ∀ switch ∈ switches, switch ∉ request.switches) :
      Writes (request.turnOn switches) (words ++ [String.ofList ('-' :: letters)])
  | positional {request : Request} {words : List String} (before : Writes request words)
      (text : String) (dashless : Dashless text) : Writes (request.place [text]) (words ++ [text])

/-- The ways to write a request to the end of the command line: there may be a terminator, and any texts
at all are positionals after it. -/
inductive WritesAll : Request → List String → Prop where
  | unended {request : Request} {words : List String} (before : Writes request words) :
      WritesAll request words
  | terminated {request : Request} {words : List String} (before : Writes request words)
      (texts : List String) : WritesAll (request.place texts) (words ++ "--" :: texts)

/-- The variables that configure a check are not set. -/
structure Unconfigured (environment : Environment) : Prop where
  toolchain : environment "TOOLGATE_TOOLCHAIN" = none
  query : environment "TOOLGATE_QUERY" = none
  compare : environment "TOOLGATE_COMPARE" = none

def Request.toDraft (request : Request) : Draft where
  toolchain := request.toolchain
  query := request.query
  compare := request.compare
  completions := request.completions
  json := request.switches.contains .json
  verbose := request.switches.contains .verbose
  quiet := request.switches.contains .quiet
  noColor := request.switches.contains .noColor
  debug := request.switches.contains .debug
  positionals := request.positionals

namespace Request

theorem isSet_toDraft (request : Request) (setting : Setting) :
    request.toDraft.isSet setting = request.has setting := by
  cases setting <;> rfl

theorem isOn_toDraft (request : Request) (switch : Switch) :
    request.toDraft.isOn switch = request.switches.contains switch := by
  cases switch <;> rfl

theorem settle_toDraft (request : Request) : request.toDraft.settle = .ok request.toDraft := rfl

theorem assign_toDraft (request : Request) (choice : Choice) :
    request.toDraft.assign choice.setting choice.text = .ok (request.choose choice).toDraft := by
  cases choice with
  | toolchain name => rfl
  | query command => rfl
  | compare comparison => cases comparison <;> rfl
  | completions shell => cases shell <;> rfl

theorem turnOn_toDraft (request : Request) (switch : Switch) :
    request.toDraft.turnOn switch = (request.turnOn [switch]).toDraft := by
  cases switch <;> simp [toDraft, turnOn, Draft.turnOn]

end Request

namespace Draft

variable {draft : Draft} {request : Request} {words : List String} {choice : Choice} {text : String}

/-- A draft that comes to a request once its pending value is examined. -/
def ComesTo (draft : Draft) (request : Request) : Prop :=
  draft.settle = .ok request.toDraft

theorem read_attached (ready : draft.ComesTo request) (fresh : request.has choice.setting = false)
    (rest : List String) :
    draft.read (("--" ++ choice.setting.flag ++ "=" ++ choice.text) :: rest) =
      (request.choose choice).toDraft.read rest := by
  have shape := (Word.Spells.attached choice.setting.flag_noEquals choice.text).ofString_eq
  have free := (request.isSet_toDraft choice.setting).trans fresh
  rw [read_of_long shape, readLong_attached, readAttached_of_settle ready free,
    request.assign_toDraft]
  rfl

/-- The draft of a request with a setting whose value is due, or is there and not yet examined. -/
def awaiting (request : Request) (setting : Setting) (value : Option String) : Draft :=
  { request.toDraft with pending := some ⟨setting, value⟩ }

theorem read_value (dashless : Dashless text) (setting : Setting) (rest : List String) :
    (awaiting request setting none).read (text :: rest) =
      (awaiting request setting (some text)).read rest := by
  rw [read_of_plain (Word.Spells.plain dashless).ofString_eq]
  rfl

theorem awaiting_comesTo (choice : Choice) (fresh : request.has choice.setting = false) :
    (awaiting request choice.setting (some choice.text)).ComesTo (request.choose choice) := by
  have free := (request.isSet_toDraft choice.setting).trans fresh
  exact (settle_of_value rfl free).trans (request.assign_toDraft choice)

theorem read_apart (ready : draft.ComesTo request) (dashless : Dashless choice.text)
    (rest : List String) :
    draft.read (("--" ++ choice.setting.flag) :: choice.text :: rest) =
      (awaiting request choice.setting (some choice.text)).read rest := by
  have shape := (Word.Spells.bare choice.setting.flag_named choice.setting.flag_noEquals).ofString_eq
  rw [read_of_long shape, readLong_awaiting, readAwaiting_of_settle ready]
  exact read_value dashless choice.setting rest

theorem read_lettered (ready : draft.ComesTo request) (dashless : Dashless text)
    (rest : List String) :
    draft.read ("-t" :: text :: rest) = (awaiting request .toolchain (some text)).read rest := by
  have shape : Word.ofString "-t" = .cluster ['t'] := rfl
  have letter : draft.readLetters ['t'] = orHalt (draft.readAwaiting .toolchain) := rfl
  rw [read_of_cluster shape, letter, readAwaiting_of_settle ready]
  exact read_value dashless .toolchain rest

theorem readSwitch_of_comesTo {switch : Switch} (ready : draft.ComesTo request)
    (fresh : switch ∉ request.switches) :
    draft.readSwitch switch = .ok (request.turnOn [switch]).toDraft := by
  have off : request.toDraft.isOn switch = false := by
    rw [request.isOn_toDraft]
    simpa using fresh
  rw [readSwitch_of_settle ready off, request.turnOn_toDraft]

theorem read_switched {switch : Switch} (ready : draft.ComesTo request)
    (fresh : switch ∉ request.switches) (rest : List String) :
    draft.read (("--" ++ switch.flag) :: rest) = (request.turnOn [switch]).toDraft.read rest := by
  have shape := (Word.Spells.bare switch.flag_named switch.flag_noEquals).ofString_eq
  rw [read_of_long shape, readLong_switch, readSwitch_of_comesTo ready fresh]
  rfl

theorem readLetters_of_comesTo {letters : List Char} {switches : List Switch}
    (spelled : List.Forall₂ Letter letters switches) (distinct : switches.Nodup)
    (fresh : ∀ switch ∈ switches, switch ∉ request.switches) (ready : draft.ComesTo request) :
    ∃ next, draft.readLetters letters = .ok next ∧ next.ComesTo (request.turnOn switches) := by
  induction spelled generalizing draft request with
  | nil => exact ⟨draft, rfl, by simpa [Request.turnOn] using ready⟩
  | @cons letter switch letters switches first _ ih =>
      have found := letter_iff.mp first
      have once := List.nodup_cons.mp distinct
      -- The switches after this one are fresh for the request that has it on already.
      have later : ∀ other ∈ switches, other ∉ (request.turnOn [switch]).switches := by
        intro other member
        simp only [Request.turnOn, List.mem_append, List.mem_singleton, not_or]
        refine ⟨fresh other (by simp [member]), ?_⟩
        rintro rfl
        exact once.1 member
      obtain ⟨next, read, comes⟩ := ih once.2 later (request.turnOn [switch]).settle_toDraft
      refine ⟨next, ?_, by simpa [Request.turnOn] using comes⟩
      simp only [readLetters, found, readSwitch_of_comesTo ready (fresh switch (by simp))]
      exact read

theorem read_cluster {letters : List Char} {switches : List Switch}
    (spelled : List.Forall₂ Letter letters switches) (some : letters ≠ [])
    (distinct : switches.Nodup) (fresh : ∀ switch ∈ switches, switch ∉ request.switches)
    (ready : draft.ComesTo request) :
    ∃ next : Draft, next.ComesTo (request.turnOn switches) ∧
      ∀ rest, draft.read (String.ofList ('-' :: letters) :: rest) = next.read rest := by
  obtain ⟨next, read, ready⟩ := readLetters_of_comesTo spelled distinct fresh ready
  refine ⟨next, ready, fun rest => ?_⟩
  cases spelled with
  | nil => exact absurd rfl some
  | @cons letter switch letters switches first _ =>
      have single : letter ≠ '-' := by
        cases first <;> decide
      rw [read_of_cluster (Word.Spells.cluster single letters).ofString_eq, read]
      rfl

theorem read_positional (ready : draft.ComesTo request) (dashless : Dashless text)
    (rest : List String) :
    draft.read (text :: rest) = (request.place [text]).toDraft.read rest := by
  rw [read_of_plain (Word.Spells.plain dashless).ofString_eq, readPlain_of_settle ready]
  rfl

end Draft

/-- What is written of a request is read as that request, whatever comes after it. -/
theorem Writes.exists_draft {request : Request} {words : List String}
    (written : Writes request words) :
    ∃ draft : Draft, draft.ComesTo request ∧
      ∀ rest, ({} : Draft).read (words ++ rest) = draft.read rest := by
  induction written with
  | nothing => exact ⟨{}, rfl, fun rest => rfl⟩
  | @attached request words _ choice fresh ih =>
      obtain ⟨draft, ready, read⟩ := ih
      refine ⟨_, (request.choose choice).settle_toDraft, fun rest => ?_⟩
      rw [List.append_assoc, read]
      exact Draft.read_attached ready fresh rest
  | @apart request words _ choice fresh dashless ih =>
      obtain ⟨draft, ready, read⟩ := ih
      refine ⟨_, Draft.awaiting_comesTo choice fresh, fun rest => ?_⟩
      rw [List.append_assoc, read]
      exact Draft.read_apart ready dashless rest
  | @lettered request words _ name fresh dashless ih =>
      obtain ⟨draft, ready, read⟩ := ih
      have next : (Draft.awaiting request .toolchain (some name)).ComesTo _ :=
        Draft.awaiting_comesTo (.toolchain name) fresh
      refine ⟨_, next, fun rest => ?_⟩
      rw [List.append_assoc, read]
      exact Draft.read_lettered ready dashless rest
  | @switched request words _ switch fresh ih =>
      obtain ⟨draft, ready, read⟩ := ih
      refine ⟨_, (request.turnOn [switch]).settle_toDraft, fun rest => ?_⟩
      rw [List.append_assoc, read]
      exact Draft.read_switched ready fresh rest
  | cluster _ spelled some distinct fresh ih =>
      obtain ⟨draft, ready, read⟩ := ih
      obtain ⟨next, ready, onward⟩ := Draft.read_cluster spelled some distinct fresh ready
      refine ⟨next, ready, fun rest => ?_⟩
      rw [List.append_assoc, read]
      exact onward rest
  | @positional request words _ text dashless ih =>
      obtain ⟨draft, ready, read⟩ := ih
      refine ⟨_, (request.place [text]).settle_toDraft, fun rest => ?_⟩
      rw [List.append_assoc, read]
      exact Draft.read_positional ready dashless rest

theorem WritesAll.read_eq {request : Request} {words : List String}
    (written : WritesAll request words) : ({} : Draft).read words = .ok request.toDraft := by
  cases written with
  | unended before =>
      obtain ⟨draft, ready, read⟩ := before.exists_draft
      rw [← List.append_nil words, read]
      exact congrArg Draft.orHalt ready
  | terminated before texts =>
      obtain ⟨draft, ready, read⟩ := before.exists_draft
      rw [read, Draft.read_of_terminator, Draft.readPositionals_of_settle ready]
      rfl

/-- Where no variable is set the invocation is that of the words alone. -/
theorem parse_of_unconfigured {draft : Draft} {words : List String} {environment : Environment}
    (bare : Unconfigured environment) (read : ({} : Draft).read words = .ok draft) :
    Invocation.parse environment words = .ok draft.invocation := by
  simp only [Invocation.parse, read, ok_bind,
    Draft.fill_of_unset (show Setting.toolchain.envName?.bind environment = none from bare.toolchain),
    Draft.fill_of_unset (show Setting.query.envName?.bind environment = none from bare.query),
    Draft.fill_of_unset (show Setting.compare.envName?.bind environment = none from bare.compare),
    Draft.orHalt_ok]
  rfl

/-- Every arrangement of a command line is read, and as the invocation that its request stands for: the
order of its options, the form each of them has, and the places of its positionals make no difference. -/
theorem parse_of_writesAll {request : Request} {words : List String} {environment : Environment}
    (written : WritesAll request words) (bare : Unconfigured environment) :
    Invocation.parse environment words = .ok request.invocation :=
  parse_of_unconfigured bare written.read_eq

/-- A version between options of all forms, one with an empty value and one with an equals sign in its
value, and words after the terminator that look like options. -/
theorem parse_of_writesAll_mixed :
    Invocation.parse (fun _ => none)
        ["--query=a=b", "1.20", "-qv", "-t", "", "--json", "--compare", "numeric", "more", "--",
          "--json", "--"] =
      .ok {
        check := {
          minVersion := some "1.20"
          extra := ["more", "--json", "--"]
          toolchain := ""
          query := some "a=b"
          compare := .numeric
          json := true }
        verbose := true
        quiet := true } := by
  have spelled : List.Forall₂ Letter ['q', 'v'] [.quiet, .verbose] :=
    .cons .quiet (.cons .verbose .nil)
  have query := Writes.nothing.attached (.query "a=b") rfl
  have version := query.positional "1.20" (by decide)
  have switches := version.cluster spelled (by decide) (by decide) (by decide)
  have toolchain := switches.lettered "" rfl (by decide)
  have json := toolchain.switched .json (by decide)
  have compare := json.apart (.compare .numeric) rfl (by decide)
  have more := compare.positional "more" (by decide)
  exact parse_of_writesAll (.terminated more ["--json", "--"]) ⟨rfl, rfl, rfl⟩

end VersionGate.Cli
