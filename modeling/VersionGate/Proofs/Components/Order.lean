import Mathlib.Data.List.DropRight
import VersionGate.Components

/-!
The order of components.

Components are ordered as sequences that go on with zeros, which is also the order of lists without
their trailing zeros. The first form says what the order means; the second inherits its laws from
the order of lists, whatever the lengths of the lists compared. Only the places of the longer list
have to be looked at, and a front that both lists share makes no difference.
-/

namespace VersionGate

/-- The component at a place; a missing component is zero. -/
def componentAt (parts : List Nat) (place : Nat) : Nat :=
  parts.getD place 0

/-- The order of component sequences without end: the first difference decides. -/
def Precedes (lower higher : List Nat) : Prop :=
  ∃ place, (∀ earlier < place, componentAt lower earlier = componentAt higher earlier) ∧
    componentAt lower place < componentAt higher place

/-- Equality of component sequences without end. -/
def Agrees (left right : List Nat) : Prop :=
  ∀ place, componentAt left place = componentAt right place

/-- Components without the zeros at their end. -/
def significant (parts : List Nat) : List Nat :=
  parts.rdropWhile (· == 0)

@[simp] theorem significant_nil : significant [] = [] := rfl

theorem significant_cons (part : Nat) (rest : List Nat) :
    significant (part :: rest) =
      if part = 0 ∧ significant rest = [] then [] else part :: significant rest := by
  simp only [significant, List.rdropWhile, List.reverse_cons, List.dropWhile_append,
    List.isEmpty_iff, List.reverse_eq_nil_iff]
  split
  · rename_i none
    by_cases zero : part = 0 <;> simp [none, zero]
  · rename_i some
    simp [some]

theorem compare_significant_cons (left right : Nat) (leftRest rightRest : List Nat) :
    compare (significant (left :: leftRest)) (significant (right :: rightRest)) =
      (compare left right).then (compare (significant leftRest) (significant rightRest)) := by
  rw [significant_cons, significant_cons]
  split
  · rename_i leftZero
    split
    · rename_i rightZero
      rw [leftZero.1, leftZero.2, rightZero.1, rightZero.2]
      rfl
    · rename_i rightSome
      rw [leftZero.1, leftZero.2, List.compare_nil_cons]
      rcases Nat.eq_zero_or_pos right with rfl | positive
      · obtain ⟨part, rest, some⟩ := List.exists_cons_of_ne_nil fun none => rightSome ⟨rfl, none⟩
        rw [some]
        rfl
      · rw [Nat.compare_eq_lt.mpr positive]
        rfl
  · rename_i leftSome
    split
    · rename_i rightZero
      rw [rightZero.1, rightZero.2, List.compare_cons_nil]
      rcases Nat.eq_zero_or_pos left with rfl | positive
      · obtain ⟨part, rest, some⟩ := List.exists_cons_of_ne_nil fun none => leftSome ⟨rfl, none⟩
        rw [some]
        rfl
      · rw [Nat.compare_eq_gt.mpr positive]
        rfl
    · exact List.compare_cons_cons

/-- Components are ordered as lists without trailing zeros are. -/
theorem compareComponents_eq_compare (left right : List Nat) :
    compareComponents left right = compare (significant left) (significant right) := by
  fun_induction compareComponents left right with
  | case1 => rfl
  | case2 part rest ih => rw [ih]; exact (compare_significant_cons 0 part [] rest).symm
  | case3 part rest ih => rw [ih]; exact (compare_significant_cons part 0 rest []).symm
  | case4 left leftRest right rightRest ih => rw [ih, compare_significant_cons]

instance : Std.TransCmp compareComponents where
  eq_swap {left right} := by
    rw [compareComponents_eq_compare, compareComponents_eq_compare]
    exact Std.OrientedOrd.eq_swap
  isLE_trans {left middle right} := by
    simp only [compareComponents_eq_compare]
    exact Std.TransOrd.isLE_trans

theorem componentAt_succ (parts : List Nat) (place : Nat) :
    componentAt parts (place + 1) = componentAt parts.tail place := by
  cases parts with
  | nil => rfl
  | cons part rest => rfl

theorem precedes_iff (lower higher : List Nat) :
    Precedes lower higher ↔ componentAt lower 0 < componentAt higher 0 ∨
      componentAt lower 0 = componentAt higher 0 ∧ Precedes lower.tail higher.tail := by
  constructor
  · rintro ⟨place, same, less⟩
    cases place with
    | zero => exact .inl less
    | succ place =>
        refine .inr ⟨same 0 (by omega), place, fun earlier before => ?_, ?_⟩
        · simpa only [componentAt_succ] using same (earlier + 1) (by omega)
        · simpa only [componentAt_succ] using less
  · rintro (less | ⟨same, place, later, less⟩)
    · exact ⟨0, by simp, less⟩
    · refine ⟨place + 1, fun earlier before => ?_, by simpa only [componentAt_succ] using less⟩
      cases earlier with
      | zero => exact same
      | succ earlier => simpa only [componentAt_succ] using later earlier (by omega)

theorem agrees_iff (left right : List Nat) :
    Agrees left right ↔ componentAt left 0 = componentAt right 0 ∧ Agrees left.tail right.tail := by
  constructor
  · intro same
    refine ⟨same 0, fun place => ?_⟩
    simpa only [componentAt_succ] using same (place + 1)
  · rintro ⟨first, later⟩ place
    cases place with
    | zero => exact first
    | succ place => simpa only [componentAt_succ] using later place

theorem compareComponents_eq_lt_iff (left right : List Nat) :
    compareComponents left right = .lt ↔ Precedes left right := by
  fun_induction compareComponents left right with
  | case1 => simp [Precedes]
  | case2 part rest ih =>
      rw [precedes_iff, Ordering.then_eq_lt, Nat.compare_eq_lt, Nat.compare_eq_eq, ih]
      rfl
  | case3 part rest ih =>
      rw [precedes_iff, Ordering.then_eq_lt, Nat.compare_eq_lt, Nat.compare_eq_eq, ih]
      rfl
  | case4 left leftRest right rightRest ih =>
      rw [precedes_iff, Ordering.then_eq_lt, Nat.compare_eq_lt, Nat.compare_eq_eq, ih]
      rfl

theorem compareComponents_eq_eq_iff (left right : List Nat) :
    compareComponents left right = .eq ↔ Agrees left right := by
  fun_induction compareComponents left right with
  | case1 => simp [Agrees]
  | case2 part rest ih =>
      rw [agrees_iff, Ordering.then_eq_eq, Nat.compare_eq_eq, ih]
      rfl
  | case3 part rest ih =>
      rw [agrees_iff, Ordering.then_eq_eq, Nat.compare_eq_eq, ih]
      rfl
  | case4 left leftRest right rightRest ih =>
      rw [agrees_iff, Ordering.then_eq_eq, Nat.compare_eq_eq, ih]
      rfl

theorem compareComponents_eq_gt_iff (left right : List Nat) :
    compareComponents left right = .gt ↔ Precedes right left := by
  rw [Std.OrientedCmp.gt_iff_lt, compareComponents_eq_lt_iff]

theorem compareComponents_ne_lt_iff (left right : List Nat) :
    compareComponents left right ≠ .lt ↔ Agrees left right ∨ Precedes right left := by
  rw [← compareComponents_eq_eq_iff, ← compareComponents_eq_gt_iff]
  cases compareComponents left right <;> simp

/-- The significant components are those that only zeros follow, and the last of them is none. -/
theorem significant_eq_iff {parts core : List Nat} :
    significant parts = core ↔
      (∃ count, parts = core ++ List.replicate count 0) ∧ core.getLast? ≠ some 0 := by
  constructor
  · rintro rfl
    have zeros : ∀ part ∈ parts.rtakeWhile (· == 0), part = 0 := fun part member => by
      simpa using List.mem_rtakeWhile_imp member
    refine ⟨⟨(parts.rtakeWhile (· == 0)).length, ?_⟩, fun last => ?_⟩
    · rw [← List.eq_replicate_length.mpr zeros]
      exact List.rdropWhile_append_rtakeWhile.symm
    · have nonempty : significant parts ≠ [] := fun empty => by simp [empty] at last
      rw [List.getLast?_eq_some_getLast nonempty, Option.some.injEq] at last
      exact List.rdropWhile_last_not _ _ nonempty (beq_iff_eq.mpr last)
  · rintro ⟨⟨count, rfl⟩, last⟩
    -- One zero after the other is dropped, down to the core, which ends in none.
    induction count with
    | zero =>
        rw [List.replicate_zero, List.append_nil]
        refine List.rdropWhile_eq_self_iff.mpr fun nonempty zero => last ?_
        rw [List.getLast?_eq_some_getLast nonempty, beq_iff_eq.mp zero]
    | succ count ih =>
        rw [List.replicate_succ', ← List.append_assoc, significant,
          List.rdropWhile_concat_pos _ _ _ rfl]
        exact ih

theorem significant_append_zeros (parts : List Nat) (count : Nat) :
    significant (parts ++ List.replicate count 0) = significant parts := by
  obtain ⟨⟨more, written⟩, last⟩ := significant_eq_iff.mp (Eq.refl (significant parts))
  refine significant_eq_iff.mpr ⟨⟨more + count, ?_⟩, last⟩
  rw [List.replicate_add, ← List.append_assoc, ← written]

/-- The order by the first difference among the places below a bound. -/
def compareBelow (bound : Nat) (left right : List Nat) : Ordering :=
  (List.range bound).foldr
    (fun place later => (compare (componentAt left place) (componentAt right place)).then later) .eq

theorem compareBelow_succ (bound : Nat) (left right : List Nat) :
    compareBelow (bound + 1) left right =
      (compare (componentAt left 0) (componentAt right 0)).then
        (compareBelow bound left.tail right.tail) := by
  simp only [compareBelow, List.range_succ_eq_map, List.foldr_cons, List.foldr_map, componentAt_succ]

/-- The places of the longer list are all that a comparison has to look at. -/
theorem compareComponents_eq_compareBelow (left right : List Nat) :
    compareComponents left right = compareBelow (max left.length right.length) left right := by
  fun_induction compareComponents left right with
  | case1 => rfl
  | case2 part rest ih =>
      rw [ih, List.length_nil, Nat.zero_max, Nat.zero_max, List.length_cons, compareBelow_succ]
      rfl
  | case3 part rest ih =>
      rw [ih, List.length_nil, Nat.max_zero, Nat.max_zero, List.length_cons, compareBelow_succ]
      rfl
  | case4 left leftRest right rightRest ih =>
      rw [ih, List.length_cons, List.length_cons, Nat.succ_max_succ, compareBelow_succ]
      rfl

theorem compareComponents_append_left (front left right : List Nat) :
    compareComponents (front ++ left) (front ++ right) = compareComponents left right := by
  induction front with
  | nil => rfl
  | cons part rest ih =>
      rw [List.cons_append, List.cons_append, compareComponents, ih, Std.ReflOrd.compare_self]
      rfl

theorem compareComponents_append_zeros (left right : List Nat) (leftCount rightCount : Nat) :
    compareComponents (left ++ List.replicate leftCount 0) (right ++ List.replicate rightCount 0) =
      compareComponents left right := by
  rw [compareComponents_eq_compare, significant_append_zeros, significant_append_zeros,
    compareComponents_eq_compare]

end VersionGate
