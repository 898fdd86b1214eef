import VersionGate.Proofs.Cli.Precedence
import VersionGate.Proofs.ReportJson
import VersionGate.Proofs.Text.LowerCase

namespace VersionGate

open Text

namespace Comparison

variable {text message : String} {comparison : Comparison}

/-- A text that is the name of a comparison but for the case of its ASCII letters. -/
def Spells (text : String) (comparison : Comparison) : Prop :=
  List.Forall₂ SameLetter text.toList comparison.name.toList

theorem distinctive_name (comparison : Comparison) : Distinctive comparison.name.toList := by
  cases comparison <;> decide

theorem lowerAscii_name (comparison : Comparison) :
    lowerAscii comparison.name.toList = comparison.name.toList := by
  cases comparison <;> decide

theorem ofName?_eq_some_iff : ofName? text = some comparison ↔ text = comparison.name := by
  rw [Cli.names_iff]
  constructor
  · rintro (_ | _) <;> rfl
  · rintro rfl
    cases comparison with
    | lexical => exact .lexical
    | numeric => exact .numeric

theorem ofNameAnyCase?_eq (text : String) :
    ofNameAnyCase? text = ofName? (String.ofList (lowerAscii text.toList)) := by
  unfold ofNameAnyCase? ofName?
  congr 1
  funext comparison
  rw [lowerAscii_name, Bool.eq_iff_iff, beq_iff_eq, beq_iff_eq, ← String.toList_inj,
    String.toList_ofList]

theorem ofNameAnyCase?_eq_some_iff :
    ofNameAnyCase? text = some comparison ↔ Spells text comparison := by
  rw [ofNameAnyCase?_eq, ofName?_eq_some_iff, ← String.toList_inj, String.toList_ofList, Spells,
    ← lowerAscii_eq_iff, lowerAscii_name]

/-- Which lower case of a text is looked up makes no difference to the comparison that it names. -/
theorem ofName?_of_lowers {lowered : List Char} (lowers : Lowers text.toList lowered) :
    ofName? (String.ofList lowered) = ofNameAnyCase? text := by
  rw [ofNameAnyCase?_eq]
  refine Option.ext fun comparison => ?_
  rw [ofName?_eq_some_iff, ofName?_eq_some_iff, ← String.toList_inj, ← String.toList_inj,
    String.toList_ofList, String.toList_ofList]
  exact lowers.eq_iff comparison.distinctive_name

theorem read_eq (text : String) : read text =
    (ofNameAnyCase? text).elim (.error ("unknown comparison: " ++ text)) .ok := by
  rw [read, ofName?_of_lowers (lowers_lowerCase text.toList)]
  cases ofNameAnyCase? text <;> rfl

theorem read_eq_ok_iff : read text = .ok comparison ↔ ofNameAnyCase? text = some comparison := by
  rw [read_eq]
  cases ofNameAnyCase? text <;> simp

theorem read_eq_error_iff : read text = .error message ↔
    (∀ comparison, ¬ Spells text comparison) ∧ message = "unknown comparison: " ++ text := by
  simp only [← ofNameAnyCase?_eq_some_iff]
  rw [read_eq]
  cases ofNameAnyCase? text <;> simp [eq_comm]

theorem Spells.ascii (spells : Spells text comparison) : ∀ c ∈ text.toList, c.toNat < 0x80 := by
  exact SameLetter.all_ascii spells fun d member => (comparison.distinctive_name d member).1

theorem Spells.length_eq (spells : Spells text comparison) :
    text.length = comparison.name.length := by
  rw [← String.length_toList, ← String.length_toList]
  exact List.Forall₂.length_eq spells

end Comparison

theorem Cli.Draft.assign_compare_eq_ok_iff {draft next : Cli.Draft} {text : String} :
    draft.assign .compare text = .ok next ↔
      ∃ comparison : Comparison, text = comparison.name ∧
        next = { draft with compare := some comparison } := by
  simp only [← Comparison.ofName?_eq_some_iff, assign]
  cases Comparison.ofName? text <;> simp [eq_comm]

/-- The name of a comparison in a report is the one that a reader of the report finds. -/
theorem Report.lookup_comparison (report : Report) :
    ((Json.read? report.json).bind (·.lookup "comparison")) =
      some (.text report.comparison.name) := by
  rw [Report.read?_json, Option.bind_some]
  rfl

open Comparison in
/-- How a text is read as a comparison. The reader that goes by the lower case of all scripts and the one
that goes by ASCII accept the same texts for the same comparisons, whichever form a sigma at the end of a
word is given: these are the names in capital or small ASCII letters, of the same length as the names. The
command line accepts a name only as it is, and offers these names; a report is written with them. What is
refused is repeated in the message as it was given. -/
theorem comparison_readers_agree (text : String) :
    (∀ comparison, Comparison.read text = .ok comparison ↔ ofNameAnyCase? text = some comparison) ∧
    (∀ lowered, Lowers text.toList lowered →
      ofName? (String.ofList lowered) = ofNameAnyCase? text) ∧
    (∀ comparison, ofNameAnyCase? text = some comparison ↔ Spells text comparison) ∧
    (∀ comparison, Spells text comparison →
      text.length = comparison.name.length ∧ ∀ c ∈ text.toList, c.toNat < 0x80) ∧
    (∀ comparison, ofName? text = some comparison ↔ text = comparison.name) ∧
    (∀ draft next : Cli.Draft, draft.assign .compare text = .ok next ↔
      ∃ comparison : Comparison, text = comparison.name ∧
        next = { draft with compare := some comparison }) ∧
    Cli.Setting.compare.values.map (·.1) = Comparison.all.map name ∧
    (∀ report : Report, ((Json.read? report.json).bind (·.lookup "comparison")) =
      some (.text report.comparison.name)) ∧
    ∀ message, Comparison.read text = .error message ↔
      (∀ comparison, ¬ Spells text comparison) ∧ message = "unknown comparison: " ++ text :=
  ⟨fun _ => read_eq_ok_iff, fun _ => ofName?_of_lowers, fun _ => ofNameAnyCase?_eq_some_iff,
    fun _ spells => ⟨spells.length_eq, spells.ascii⟩, fun _ => ofName?_eq_some_iff,
    fun _ _ => Cli.Draft.assign_compare_eq_ok_iff, rfl, Report.lookup_comparison,
    fun _ => read_eq_error_iff⟩

/-- Mixed capitals spell a name, which has the same length and is in ASCII. A capital dotted I does not,
although its lower case begins with an i, and the message repeats it. -/
theorem comparison_readers_agree_dotted :
    Comparison.read "NuMERIC" = .ok .numeric ∧
      Comparison.ofName? (String.ofList (lowerCase "NuMERIC".toList)) = some .numeric ∧
      "NuMERIC".length = "numeric".length ∧ (∀ c ∈ "NuMERIC".toList, c.toNat < 0x80) ∧
      Comparison.read "NUMER\u0130C" = .error "unknown comparison: NUMER\u0130C" := by
  obtain ⟨reads, lowers, spelt, plain, _⟩ := comparison_readers_agree "NuMERIC"
  have named : Comparison.ofNameAnyCase? "NuMERIC" = some .numeric := by decide
  obtain ⟨length, ascii⟩ := plain .numeric ((spelt .numeric).mp named)
  have lowered := lowers _ (lowers_lowerCase _)
  obtain ⟨_, _, _, _, _, _, _, _, refused⟩ := comparison_readers_agree "NUMER\u0130C"
  refine ⟨(reads .numeric).mpr named, lowered.trans named, length, ascii, ?_⟩
  refine (refused _).mpr ⟨fun comparison spells => ?_, by decide⟩
  have ascii := spells.ascii '\u0130' (by decide)
  exact absurd ascii (by decide)

end VersionGate
