import Mathlib.Data.List.TakeWhile

namespace VersionGate.Text

variable {kind : Char → Bool} {front rest other otherRest : List Char}

theorem takeWhile_append_of_stops (run : ∀ c ∈ front, kind c = true)
    (stops : ∀ c ∈ rest.head?, kind c = false) : (front ++ rest).takeWhile kind = front := by
  rw [List.takeWhile_append_of_pos run]
  cases rest with
  | nil => simp
  | cons c rest => simp [stops c rfl]

/-- A text begins in one way only with characters of a kind and what stops them. -/
theorem append_inj_of_stops (run : ∀ c ∈ front, kind c = true)
    (stops : ∀ c ∈ rest.head?, kind c = false) (otherRun : ∀ c ∈ other, kind c = true)
    (otherStops : ∀ c ∈ otherRest.head?, kind c = false) (same : front ++ rest = other ++ otherRest) :
    front = other ∧ rest = otherRest := by
  have fronts : front = other := by
    rw [← takeWhile_append_of_stops run stops, same, takeWhile_append_of_stops otherRun otherStops]
  subst fronts
  exact ⟨rfl, List.append_cancel_left same⟩

end VersionGate.Text
