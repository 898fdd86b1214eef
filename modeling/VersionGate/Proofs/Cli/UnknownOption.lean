import VersionGate.Proofs.Cli.Precedence
import VersionGate.Proofs.ExitCode

namespace VersionGate.Cli

/-- Letters that ask for help or for the version, with nothing but switches before. -/
inductive AsksAmong : List Char → Prop where
  | help (rest : List Char) : AsksAmong ('h' :: rest)
  | version (rest : List Char) : AsksAmong ('V' :: rest)
  | later {letter : Char} {switch : Switch} {letters : List Char} (first : Letter letter switch)
      (more : AsksAmong letters) : AsksAmong (letter :: letters)

inductive Asks : String → Prop where
  | help : Asks "--help"
  | version : Asks "--version"
  | among {letters : List Char} (among : AsksAmong letters) :
      Asks (String.ofList ('-' :: letters))

/-- A word with two dashes before a name that no option has, and with a value after it or none. -/
structure Undeclared (name text : String) : Prop where
  spells : ∃ attached, Word.Spells (.long name attached) text
  foreign : ∀ opt : Opt, opt.long ≠ name

variable {name text : String} {letters : List Char} {halt : Halt} {inquiry : Inquiry} {letter : Char}

theorem asksAmong_cons_iff : AsksAmong (letter :: letters) ↔
    letter = 'h' ∨ letter = 'V' ∨ (letter = 'v' ∨ letter = 'q') ∧ AsksAmong letters := by
  constructor
  · rintro (_ | _ | ⟨_ | _, more⟩)
    · exact .inl rfl
    · exact .inr (.inl rfl)
    · exact .inr (.inr ⟨.inl rfl, more⟩)
    · exact .inr (.inr ⟨.inr rfl, more⟩)
  · rintro (rfl | rfl | ⟨rfl | rfl, more⟩)
    · exact .help letters
    · exact .version letters
    · exact .later .verbose more
    · exact .later .quiet more

instance decidableAsksAmong : (letters : List Char) → Decidable (AsksAmong letters)
  | [] => isFalse nofun
  | _ :: letters =>
    have := decidableAsksAmong letters
    decidable_of_iff _ asksAmong_cons_iff.symm

theorem asks_iff : Asks text ↔ text = "--help" ∨ text = "--version" ∨
    text.toList.head? = some '-' ∧ AsksAmong text.toList.tail := by
  constructor
  · rintro (_ | _ | among)
    · exact .inl rfl
    · exact .inr (.inl rfl)
    · exact .inr (.inr (by simpa using among))
  · rintro (rfl | rfl | ⟨dash, among⟩)
    · exact .help
    · exact .version
    · have same : String.ofList ('-' :: text.toList.tail) = text := by
        rw [List.cons_head?_tail dash, String.ofList_toList]
      exact same ▸ .among among

instance (text : String) : Decidable (Asks text) :=
  decidable_of_iff _ asks_iff.symm

theorem Opt.ofLong?_eq_none_iff : Opt.ofLong? name = none ↔ ∀ opt : Opt, opt.long ≠ name := by
  have declared (opt : Opt) : opt ∈ Opt.all := by
    cases opt with
    | switch switch => cases switch <;> decide
    | setting setting => cases setting <;> decide
    | inquiry inquiry => cases inquiry <;> decide
  rw [Opt.ofLong?, List.find?_eq_none]
  simp only [beq_iff_eq]
  exact ⟨fun none opt => none opt (declared opt), fun none opt _ => none opt⟩

theorem asksAmong_of_inquiry (found : Opt.ofShort? letter = some (.inquiry inquiry)) :
    AsksAmong (letter :: letters) := by
  have same := List.find?_some found
  rw [beq_iff_eq] at same
  cases inquiry with
  | help =>
      cases same
      exact .help letters
  | version =>
      cases same
      exact .version letters

theorem asks_of_inquiry (found : Opt.ofLong? name = some (.inquiry inquiry)) :
    Asks ("--" ++ name) := by
  have same := List.find?_some found
  rw [beq_iff_eq] at same
  subst same
  cases inquiry with
  | help => exact .help
  | version => exact .version

namespace Draft

variable {draft : Draft} {attached : Option String} {before : List String}

def readWord (draft : Draft) (text : String) : Except Halt Draft :=
  match Word.ofString text with
  | .terminator => .ok draft
  | .long name attached => draft.readLong name attached
  | .cluster letters => draft.readLetters letters
  | .plain text => orHalt (draft.readPlain text)

/-- Reads words among which there is no terminator, with more words to come. -/
def readWords (draft : Draft) (words : List String) : Except Halt Draft :=
  words.foldlM readWord draft

theorem read_cons (onward : text ≠ "--") (rest : List String) :
    draft.read (text :: rest) = draft.readWord text >>= (·.read rest) := by
  unfold readWord
  cases shape : Word.ofString text with
  | terminator => cases Word.ofString_eq_iff.mp shape; exact absurd rfl onward
  | long name attached => exact read_of_long shape rest
  | cluster letters => exact read_of_cluster shape rest
  | plain plain =>
      obtain rfl : plain = text := by
        cases Word.ofString_eq_iff.mp shape <;> rfl
      exact read_of_plain shape rest

/-- Up to the terminator the words of a command line are read one after the other. -/
theorem read_append (onward : "--" ∉ before) (rest : List String) :
    draft.read (before ++ rest) = draft.readWords before >>= (·.read rest) := by
  induction before generalizing draft with
  | nil => rfl
  | cons text before ih =>
      rw [List.mem_cons, not_or] at onward
      rw [List.cons_append, read_cons (Ne.symm onward.1), readWords, List.foldlM_cons]
      cases draft.readWord text with
      | error halt => rfl
      | ok next => exact ih onward.2

theorem usage_of_orHalt {α : Type} {result : Except UsageError α}
    (failed : orHalt result = .error halt) : ∃ error, halt = .usage error := by
  cases result with
  | ok value => cases failed
  | error error =>
      cases failed
      exact ⟨error, rfl⟩

theorem usage_or_asks_of_readLong (failed : draft.readLong name attached = .error halt) :
    (∃ error, halt = .usage error) ∨ attached = none ∧ Asks ("--" ++ name) := by
  unfold readLong at failed
  split at failed
  · cases failed
    exact .inl ⟨_, rfl⟩
  · exact .inl (usage_of_orHalt failed)
  · exact .inl (usage_of_orHalt failed)
  · cases failed
    exact .inl ⟨_, rfl⟩
  · exact .inl (usage_of_orHalt failed)
  · rename_i inquiry found
    exact .inr ⟨rfl, asks_of_inquiry found⟩

theorem usage_or_asks_of_readLetters (failed : draft.readLetters letters = .error halt) :
    (∃ error, halt = .usage error) ∨ AsksAmong letters := by
  induction letters generalizing draft with
  | nil => cases failed
  | cons letter rest ih =>
      unfold readLetters at failed
      split at failed
      · cases failed
        exact .inl ⟨_, rfl⟩
      · rename_i inquiry found
        exact .inr (asksAmong_of_inquiry found)
      · rename_i switch found
        split at failed
        · exact (ih failed).imp_right (.later (letter_iff.mpr found))
        · cases failed
          exact .inl ⟨_, rfl⟩
      · split at failed <;> exact .inl (usage_of_orHalt failed)

/-- A word stops the reading with a usage error, or because it asks for something. -/
theorem usage_or_asks_of_readWord (failed : draft.readWord text = .error halt) :
    (∃ error, halt = .usage error) ∨ Asks text := by
  unfold readWord at failed
  cases shape : Word.ofString text with
  | terminator =>
      rw [shape] at failed
      cases failed
  | long name attached =>
      rw [shape] at failed
      refine (usage_or_asks_of_readLong failed).imp_right ?_
      rintro ⟨rfl, asks⟩
      cases Word.ofString_eq_iff.mp shape
      exact asks
  | cluster letters =>
      rw [shape] at failed
      refine (usage_or_asks_of_readLetters failed).imp_right fun among => ?_
      cases Word.ofString_eq_iff.mp shape
      exact .among among
  | plain plain =>
      rw [shape] at failed
      exact .inl (usage_of_orHalt failed)

theorem usage_of_readWords (quiet : ∀ word ∈ before, ¬ Asks word)
    (failed : draft.readWords before = .error halt) : ∃ error, halt = .usage error := by
  induction before generalizing draft with
  | nil => cases failed
  | cons text before ih =>
      rw [List.forall_mem_cons] at quiet
      rw [readWords, List.foldlM_cons] at failed
      cases first : draft.readWord text with
      | error other =>
          rw [first] at failed
          cases failed
          exact (usage_or_asks_of_readWord first).resolve_right quiet.1
      | ok next =>
          rw [first] at failed
          exact ih quiet.2 failed

/-- A word with an unknown name is refused in every state of the draft, also where a value is due. -/
theorem readWord_of_undeclared (undeclared : Undeclared name text) :
    draft.readWord text = .error (.usage (.unknownOption ("--" ++ name))) := by
  obtain ⟨⟨attached, spells⟩, foreign⟩ := undeclared
  simp only [readWord, spells.ofString_eq, readLong, Opt.ofLong?_eq_none_iff.mpr foreign]

end Draft

theorem Undeclared.ne_terminator (undeclared : Undeclared name text) : text ≠ "--" := by
  rintro rfl
  obtain ⟨attached, spells⟩ := undeclared.spells
  cases spells.ofString_eq

/-- A command line on which a word names no option is read up to that word, and what comes after it has no
part in what it leads to. -/
theorem read_undeclared {before : List String} (onward : "--" ∉ before)
    (undeclared : Undeclared name text) :
    ∃ halt, (∀ after, ({} : Draft).read (before ++ text :: after) = .error halt) ∧
      (({} : Draft).readWords before = .error halt ∨
        halt = .usage (.unknownOption ("--" ++ name))) := by
  cases reached : ({} : Draft).readWords before with
  | error halt =>
      refine ⟨halt, fun after => ?_, .inl rfl⟩
      rw [Draft.read_append onward, reached]
      rfl
  | ok draft =>
      refine ⟨_, fun after => ?_, .inr rfl⟩
      rw [Draft.read_append onward, reached, ok_bind, Draft.read_cons undeclared.ne_terminator,
        Draft.readWord_of_undeclared undeclared]
      rfl

/-- A command line on which a word before the terminator names no option never leads to a check. What it leads
to is settled by the words up to that one, in every environment and whatever comes after it: the option is
refused if the words before it can be read, and it is a usage error in any case unless one of them asks for
help or for the version. The process then exits with the code of a usage error, and is the same for all
hosts, since it asks none of them to start a child. -/
theorem undeclared_option_refused {before : List String} (onward : "--" ∉ before)
    (undeclared : Undeclared name text) :
    ∃ halt,
      (∀ environment after,
        Invocation.parse environment (before ++ text :: after) = .error halt) ∧
      (∀ draft, ({} : Draft).readWords before = .ok draft →
        halt = .usage (.unknownOption ("--" ++ name))) ∧
      ((∀ word ∈ before, ¬ Asks word) →
        (∃ error, halt = .usage error) ∧
        ∀ (host : Host) (environment : Environment) (clock : Log.Clock) (called : String)
          (after : List String),
          let process := runProcess host environment clock (called :: (before ++ text :: after))
          process.code = 64 ∧ ∀ other : Host,
            runProcess other environment clock (called :: (before ++ text :: after)) = process) := by
  obtain ⟨halt, read, blamed⟩ := read_undeclared onward undeclared
  have parsed (environment : Environment) (after : List String) :
      Invocation.parse environment (before ++ text :: after) = .error halt :=
    parse_of_read_error (read after)
  refine ⟨halt, parsed, fun draft reached => ?_, fun quiet => ?_⟩
  · refine blamed.resolve_left fun failed => ?_
    rw [reached] at failed
    cases failed
  · obtain ⟨error, rfl⟩ : ∃ error, halt = .usage error := by
      rcases blamed with failed | refused
      · exact Draft.usage_of_readWords quiet failed
      · exact ⟨_, refused⟩
    refine ⟨⟨error, rfl⟩, fun host environment clock called after => ⟨?_, fun other => ?_⟩⟩
    · exact runProcess_code_of_usage (parsed environment after)
    · exact runProcess_of_halt (parsed environment after) host

/-- An unknown option where the query is due, after a positional and a cluster that takes the next word, is
refused by its name; the request for help that follows comes too late. -/
theorem undeclared_option_refused_where_value_is_due :
    let before := ["1.20", "-qt", "go", "--query"]
    let host : Host := fun _ => .error (.system 2)
    Invocation.parse (fun _ => none) (before ++ "--bogus=1" :: ["--help"]) =
        .error (.usage (.unknownOption "--bogus")) ∧
      (runProcess host (fun _ => none) ⟨"", "0"⟩
        ("toolgate" :: (before ++ "--bogus=1" :: ["--help"]))).code = 64 := by
  intro before host
  have undeclared : Undeclared "bogus" "--bogus=1" :=
    ⟨⟨some "1", .attached (by decide) "1"⟩, Opt.ofLong?_eq_none_iff.mp (by decide)⟩
  have onward : "--" ∉ before := by decide
  have quiet : ∀ word ∈ before, ¬ Asks word := by decide
  obtain ⟨halt, parsed, refused, usage⟩ := undeclared_option_refused onward undeclared
  have reached : ({} : Draft).readWords before = .ok
      { toolchain := some "go", quiet := true, positionals := ["1.20"],
        pending := some ⟨.query, none⟩ } := by decide
  obtain rfl := refused _ reached
  exact ⟨parsed _ _, ((usage quiet).2 host _ _ _ _).1⟩

end VersionGate.Cli
