import VersionGate.Proofs.Json.Lines

namespace VersionGate

namespace Json.Value

def text? : Value → Option String
  | .text content => some content
  | .bool _ => none

def bool? : Value → Option Bool
  | .text _ => none
  | .bool value => some value

end Json.Value

namespace Report

def values (report : Report) : List (String × Json.Value) :=
  [("toolchain", .text report.toolchain),
    ("required", .text report.required),
    ("installed", .text report.installed),
    ("comparison", .text report.comparison.name),
    ("satisfied", .bool report.satisfied)]

/-- The report that has certain members, each of which is found by its name. -/
def ofValues? (values : List (String × Json.Value)) : Option Report := do
  let text? (name : String) : Option String := (values.lookup name).bind Json.Value.text?
  return {
    toolchain := ← text? "toolchain"
    required := ← text? "required"
    installed := ← text? "installed"
    comparison := ← (text? "comparison").bind Comparison.ofName?
    satisfied := ← (values.lookup "satisfied").bind Json.Value.bool?
  }

/-- The report that a JSON text stands for. -/
def ofJson? (text : String) : Option Report :=
  (Json.read? text).bind ofValues?

def jsonLines (report : Report) : List String :=
  Json.objectLines report.values

variable (report : Report)

theorem json_eq_object : report.json = Json.object (report.values.map Json.writtenMember) :=
  rfl

theorem read?_json : Json.read? report.json = some report.values := by
  rw [json_eq_object, Json.read?_object]

theorem ofValues?_values : ofValues? report.values = some report := by
  have named : Comparison.ofName? report.comparison.name = some report.comparison := by
    cases report.comparison <;> rfl
  simp [ofValues?, values, List.lookup_cons, Json.Value.text?, Json.Value.bool?, named]

theorem ofJson?_json : ofJson? report.json = some report := by
  rw [ofJson?, read?_json, Option.bind_some, ofValues?_values]

/-- The report is the only one with its text. -/
theorem json_inj {report other : Report} : report.json = other.json ↔ report = other := by
  refine ⟨fun same => ?_, fun same => by rw [same]⟩
  have readBack := ofJson?_json report
  rw [same, ofJson?_json] at readBack
  exact (Option.some.inj readBack).symm

theorem json_eq_jsonLines : report.json = "\n".intercalate report.jsonLines := by
  have nonempty : report.values ≠ [] := List.cons_ne_nil _ _
  rw [json_eq_object, Json.object_lines nonempty, jsonLines]

theorem length_jsonLines : report.jsonLines.length = 7 := by
  rw [jsonLines, Json.length_objectLines]
  rfl

end Report

/-- The JSON text of a report has its five members, from which it is made again, so two reports with one
text are one report; and the text is seven lines, with line feeds between them and no other control
character anywhere. -/
theorem report_json_decodes (report : Report) :
    Json.read? report.json = some
      [("toolchain", .text report.toolchain), ("required", .text report.required),
        ("installed", .text report.installed), ("comparison", .text report.comparison.name),
        ("satisfied", .bool report.satisfied)] ∧
    Report.ofJson? report.json = some report ∧
    (∀ other : Report, other.json = report.json ↔ other = report) ∧
    report.json = "\n".intercalate report.jsonLines ∧ report.jsonLines.length = 7 ∧
    ∀ line ∈ report.jsonLines, ∀ c ∈ line.toList, 0x20 ≤ c.toNat := by
  refine ⟨report.read?_json, report.ofJson?_json, fun other => Report.json_inj,
    report.json_eq_jsonLines, report.length_jsonLines, fun line among => ?_⟩
  exact Json.controlFree_objectLines report.values line among

end VersionGate
