import VersionGate.Proofs.Json.Reader

namespace VersionGate.Json

/-- No character of the text has a code point below that of the space. -/
def ControlFree (text : List Char) : Prop :=
  ∀ c ∈ text, 0x20 ≤ c.toNat

instance (text : List Char) : Decidable (ControlFree text) :=
  decidable_of_iff (text.all (0x20 ≤ ·.toNat) = true) (by simp [ControlFree])

namespace ControlFree

variable {first second : List Char}

theorem append (one : ControlFree first) (other : ControlFree second) :
    ControlFree (first ++ second) := by
  intro c member
  rcases List.mem_append.mp member with member | member
  · exact one c member
  · exact other c member

theorem hexDigitsWide : ∀ code < 0x20, ControlFree (Text.hexDigitsWide 4 code) := by
  decide

theorem encodeChar (c : Char) : ControlFree (encodeChar c) := by
  unfold Json.encodeChar
  split
  case h_8 =>
    split
    · rename_i control
      have prefixed : ControlFree ['\\', 'u'] := by decide
      exact prefixed.append (hexDigitsWide c.toNat control)
    · rename_i visible
      intro shown member
      rw [List.mem_singleton.mp member]
      exact Nat.not_lt.mp visible
  all_goals decide

theorem string (text : String) : ControlFree (string text).toList := by
  have quote : ControlFree ['"'] := by decide
  have inner : ControlFree (text.toList.flatMap Json.encodeChar) := by
    intro c member
    obtain ⟨_, -, written⟩ := List.mem_flatMap.mp member
    exact encodeChar _ c written
  have whole := (quote.append inner).append quote
  simpa only [Json.string, String.toList_ofList, encodeText, List.cons_append,
    List.nil_append] using whole

theorem written (value : Value) : ControlFree value.written.toList := by
  cases value with
  | text text => exact string text
  | bool value => cases value <;> decide

theorem memberText (member : String × Value) : ControlFree (memberText member).toList := by
  obtain ⟨name, value⟩ := member
  have indent : ControlFree "  ".toList := by decide
  have colon : ControlFree ": ".toList := by decide
  have line := ((indent.append (string name)).append colon).append (written value)
  simpa only [Json.memberText, String.toList_append] using line

end ControlFree

/-- The lines of the members: all of them but the last one end with a comma. -/
def memberLines : List (String × Value) → List String
  | [] => []
  | [member] => [memberText member]
  | member :: next :: members => (memberText member ++ ",") :: memberLines (next :: members)

def objectLines (members : List (String × Value)) : List String :=
  "\x7b" :: memberLines members ++ ["\x7d"]

@[simp] theorem length_memberLines (members : List (String × Value)) :
    (memberLines members).length = members.length := by
  fun_induction memberLines members <;> simp_all

theorem length_objectLines (members : List (String × Value)) :
    (objectLines members).length = members.length + 2 := by
  simp [objectLines]

theorem memberLines_ne_nil {members : List (String × Value)} (nonempty : members ≠ []) :
    memberLines members ≠ [] := by
  rwa [← List.length_pos_iff, length_memberLines, List.length_pos_iff]

theorem intercalate_memberLines (members : List (String × Value)) :
    "\n".intercalate (memberLines members) = ",\n".intercalate (members.map memberText) := by
  fun_induction memberLines members with
  | case1 => rfl
  | case2 member => simp
  | case3 member next members ih =>
    have others := memberLines_ne_nil (List.cons_ne_nil next members)
    have separator : ",\n" = "," ++ "\n" := rfl
    rw [String.intercalate_cons_of_ne_nil others, ih]
    simp only [List.map_cons, String.intercalate_cons_cons, separator, String.append_assoc]

theorem object_lines {members : List (String × Value)} (nonempty : members ≠ []) :
    object (members.map writtenMember) = "\n".intercalate (objectLines members) := by
  have opened : "\x7b" :: memberLines members ≠ [] := List.cons_ne_nil _ _
  have opening : "\x7b\n" = "\x7b" ++ "\n" := rfl
  have closing : "\n\x7d" = "\n" ++ "\x7d" := rfl
  rw [object_eq_memberText, opening, closing, ← String.append_assoc, objectLines,
    String.intercalate_append_of_ne_nil opened (List.cons_ne_nil _ _),
    String.intercalate_cons_of_ne_nil (memberLines_ne_nil nonempty), intercalate_memberLines,
    String.intercalate_singleton]

theorem controlFree_memberLines (members : List (String × Value)) :
    ∀ line ∈ memberLines members, ControlFree line.toList := by
  fun_induction memberLines members with
  | case1 => simp
  | case2 member => simpa using ControlFree.memberText member
  | case3 member next members ih =>
    intro line among
    rcases List.mem_cons.mp among with rfl | among
    · have comma : ControlFree ",".toList := by decide
      rw [String.toList_append]
      exact (ControlFree.memberText member).append comma
    · exact ih line among

theorem controlFree_objectLines (members : List (String × Value)) :
    ∀ line ∈ objectLines members, ControlFree line.toList := by
  intro line among
  simp only [objectLines, List.cons_append, List.mem_cons, List.mem_append, List.not_mem_nil,
    or_false] at among
  rcases among with rfl | among | rfl
  · decide
  · exact controlFree_memberLines members line among
  · decide

end VersionGate.Json
