import VersionGate.Ordering
import VersionGate.Proofs.Components.Order
import VersionGate.Proofs.Text.Utf8

/-!
The laws of the two comparisons.

Either comparison reads a key from each string, which may fail, and orders the keys. It is therefore
a total preorder on the strings that have a key, whatever that key loses of the string.

The key of the lexical comparison is the bytes of a string. Their order is the one by code points, so that
nothing depends on how characters are encoded.
-/

namespace VersionGate

variable {toolchain : String}

/-- An order that may fail is a total preorder where it succeeds. -/
structure TotalPreorder (order : String → String → Except GateError Ordering) : Prop where
  reflexive : ∀ version ordering, order version version = .ok ordering → ordering = .eq
  reversed : ∀ left right ordering, order left right = .ok ordering ↔
    order right left = .ok ordering.swap
  transitive : ∀ low middle high first second, order low middle = .ok first →
    order middle high = .ok second → first ≠ .gt → second ≠ .gt →
    ∃ third, order low high = .ok third ∧ third ≠ .gt ∧ (first = .lt ∨ second = .lt → third = .lt)

/-- An order by keys succeeds where both keys are there, with the order of the keys. -/
def OrderedBy {κ : Type} (order : String → String → Except GateError Ordering)
    (key? : String → Option κ) (keys : κ → κ → Ordering) : Prop :=
  ∀ left right ordering, order left right = .ok ordering ↔
    ∃ leftKey rightKey, key? left = some leftKey ∧ key? right = some rightKey ∧
      keys leftKey rightKey = ordering

theorem OrderedBy.totalPreorder {κ : Type} {order : String → String → Except GateError Ordering}
    {key? : String → Option κ} {keys : κ → κ → Ordering} [Std.TransCmp keys]
    (ordered : OrderedBy order key? keys) : TotalPreorder order where
  reflexive version ordering compared := by
    obtain ⟨left, right, leftKey, rightKey, rfl⟩ := (ordered _ _ _).mp compared
    rw [leftKey] at rightKey
    cases rightKey
    exact Std.ReflCmp.compare_self
  reversed left right ordering := by
    rw [ordered, ordered]
    constructor
    · rintro ⟨leftKey, rightKey, leftFound, rightFound, rfl⟩
      exact ⟨rightKey, leftKey, rightFound, leftFound, Std.OrientedCmp.eq_swap⟩
    · rintro ⟨rightKey, leftKey, rightFound, leftFound, compared⟩
      refine ⟨leftKey, rightKey, leftFound, rightFound, ?_⟩
      have swapped : keys leftKey rightKey = (keys rightKey leftKey).swap :=
        Std.OrientedCmp.eq_swap
      rw [swapped, compared, Ordering.swap_swap]
  transitive low middle high first second lowMiddle middleHigh firstLE secondLE := by
    obtain ⟨lowKey, middleKey, lowFound, middleFound, rfl⟩ := (ordered _ _ _).mp lowMiddle
    obtain ⟨sameKey, highKey, sameFound, highFound, rfl⟩ := (ordered _ _ _).mp middleHigh
    rw [middleFound] at sameFound
    cases sameFound
    have firstLE := Ordering.ne_gt_iff_isLE.mp firstLE
    have secondLE := Ordering.ne_gt_iff_isLE.mp secondLE
    refine ⟨keys lowKey highKey, (ordered _ _ _).mpr ⟨_, _, lowFound, highFound, rfl⟩, ?_, ?_⟩
    · exact Ordering.ne_gt_iff_isLE.mpr (Std.TransCmp.isLE_trans firstLE secondLE)
    · rintro (less | less)
      · exact Std.TransCmp.lt_of_lt_of_isLE less secondLE
      · exact Std.TransCmp.lt_of_isLE_of_lt firstLE less

theorem compareBytes_eq_eq_iff {left right : String} :
    compareBytes left right = .eq ↔ left = right := by
  rw [compareBytes, Text.Utf8.compare_encode_eq_iff, String.toList_inj]

theorem order_lexical (left right : String) :
    Comparison.lexical.order left right toolchain = .ok (compareBytes left right) := rfl

theorem lexical_orderedBy :
    OrderedBy (Comparison.lexical.order · · toolchain)
      (fun version => some (Text.Utf8.encode version.toList)) compare := by
  intro left right ordering
  simp [order_lexical, compareBytes]

theorem order_numeric (left right : String) :
    Comparison.numeric.order left right toolchain =
      match components? left toolchain, components? right toolchain with
      | none, _ => .error (.unrecognizedVersion left)
      | some _, none => .error (.unrecognizedVersion right)
      | some leftParts, some rightParts => .ok (compareComponents leftParts rightParts) := by
  cases leftRead : components? left toolchain <;> cases rightRead : components? right toolchain <;>
    simp only [Comparison.order, requireComponents, leftRead, rightRead] <;> rfl

theorem numeric_orderedBy :
    OrderedBy (Comparison.numeric.order · · toolchain) (components? · toolchain)
      compareComponents := by
  intro left right ordering
  simp only [order_numeric]
  cases components? left toolchain <;> cases components? right toolchain <;> simp

theorem order_totalPreorder (comparison : Comparison) :
    TotalPreorder (comparison.order · · toolchain) := by
  cases comparison with
  | lexical => exact lexical_orderedBy.totalPreorder
  | numeric => exact numeric_orderedBy.totalPreorder

/-- The numeric order names the installed version if it has no components, and the required one
otherwise. -/
theorem order_numeric_eq_error_iff {left right : String} {error : GateError} :
    Comparison.numeric.order left right toolchain = .error error ↔
      components? left toolchain = none ∧ error = .unrecognizedVersion left ∨
      components? left toolchain ≠ none ∧ components? right toolchain = none ∧
        error = .unrecognizedVersion right := by
  rw [order_numeric]
  cases components? left toolchain <;> cases components? right toolchain <;> simp [eq_comm]

/-- Only the numeric order can fail, and then for one of the two versions that has no components. -/
theorem order_error_cases {comparison : Comparison} {left right : String} {error : GateError}
    (failed : comparison.order left right toolchain = .error error) :
    comparison = .numeric ∧
      (components? left toolchain = none ∨ components? right toolchain = none) ∧
      ∃ version, (version = left ∨ version = right) ∧ error = .unrecognizedVersion version := by
  cases comparison with
  | lexical => simp [order_lexical] at failed
  | numeric =>
      rcases order_numeric_eq_error_iff.mp failed with ⟨unread, rfl⟩ | ⟨_, unread, rfl⟩
      · exact ⟨rfl, .inl unread, left, .inl rfl, rfl⟩
      · exact ⟨rfl, .inr unread, right, .inr rfl, rfl⟩

theorem order_numeric_ne_ok {left right : String} {ordering : Ordering}
    (foreign : components? left toolchain = none ∨ components? right toolchain = none) :
    Comparison.numeric.order left right toolchain ≠ .ok ordering := by
  rw [order_numeric]
  rcases foreign with unread | unread
  · simp [unread]
  · cases components? left toolchain <;> simp [unread]

section Lexicographic

variable {α : Type} [Ord α] [LT α] [LE α] [Std.LawfulOrderOrd α] [Std.LawfulOrderLT α]
  [Std.LawfulEqOrd α]

/-- The order of two sequences by the first items that differ, or by which of them ends first. -/
structure Lexicographic (ordering : Ordering) (left right : List α) : Prop where
  lt : ordering = .lt ↔ List.Lex (· < ·) left right
  eq : ordering = .eq ↔ left = right
  gt : ordering = .gt ↔ List.Lex (· < ·) right left

theorem compare_eq_lt_iff_lex {left right : List α} :
    compare left right = .lt ↔ List.Lex (· < ·) left right := by
  induction left generalizing right with
  | nil =>
      cases right with
      | nil => simp
      | cons next rest => simp [List.compare_nil_cons]
  | cons item left ih =>
      cases right with
      | nil => simp [List.compare_cons_nil]
      | cons next right =>
          rw [List.compare_cons_cons, Ordering.then_eq_lt, Std.compare_eq_lt, ih,
            Std.compare_eq_iff_eq, List.cons_lex_cons_iff]

theorem lexicographic_compare [Std.OrientedOrd α] (left right : List α) :
    Lexicographic (compare left right) left right where
  lt := compare_eq_lt_iff_lex
  eq := Std.compare_eq_iff_eq
  gt := by rw [Std.OrientedOrd.eq_swap, Ordering.swap_eq_gt, compare_eq_lt_iff_lex]

end Lexicographic

/-- The lexical comparison orders strings by their bytes, and orders them alike by their code points: the
first difference decides, and a string comes before all that go on from it. -/
theorem lexical_order_by_code_points (left right toolchain : String) :
    ∃ ordering, Comparison.lexical.order left right toolchain = .ok ordering ∧
      Lexicographic ordering left.toByteArray.data.toList right.toByteArray.data.toList ∧
      Lexicographic ordering (left.toList.map Char.toNat) (right.toList.map Char.toNat) := by
  refine ⟨_, order_lexical left right, ?_, ?_⟩
  · rw [compareBytes, Text.Utf8.encode_toList, Text.Utf8.encode_toList]
    exact lexicographic_compare _ _
  · rw [compareBytes, Text.Utf8.compare_encode]
    exact lexicographic_compare _ _

/-- The last character of three bytes stands before the first one of four. -/
example : Comparison.lexical.order "go\uffff" "go𐀀" "go" = .ok .lt := by decide

/-- The order of components, place by place up to the end of the longer list, is the lexicographic order of
their significant parts. Zeros at the end of either list and a front that both lists share are no part of
it. -/
theorem components_order_significant (left right : List Nat) :
    compareComponents left right = compareBelow (max left.length right.length) left right ∧
      Lexicographic (compareComponents left right) (significant left) (significant right) ∧
      (∀ leftCount rightCount,
        compareComponents (left ++ List.replicate leftCount 0)
          (right ++ List.replicate rightCount 0) = compareComponents left right) ∧
      ∀ front, compareComponents (front ++ left) (front ++ right) = compareComponents left right := by
  refine ⟨compareComponents_eq_compareBelow left right, ?_, compareComponents_append_zeros left right,
    fun front => compareComponents_append_left front left right⟩
  rw [compareComponents_eq_compare]
  exact lexicographic_compare _ _

/-- A zero between other components counts, and zeros after all of them do not. -/
example : compareComponents [1, 20, 0, 1] [1, 20] = .gt ∧
    compareComponents [1, 20, 0, 0] [1, 20] = .eq := by
  cbv

end VersionGate
