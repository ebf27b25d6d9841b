import Mathlib

/-!
# Lists compared by number and weight

What was found is compared with what was expected. If every part of a search finds no more
than expected, and nothing lighter where it finds as much, then the whole can only have what
was expected if each part has as much, of the same weight.
-/

namespace Library

variable {α : Type} {weight : α → Nat} {found expected found' expected' : List α}

/-- At most as much is found as expected and, if it is as much, nothing lighter in total. -/
structure Outweighs (weight : α → Nat) (found expected : List α) : Prop where
  length : found.length ≤ expected.length
  weight : found.length = expected.length →
    (expected.map weight).sum ≤ (found.map weight).sum

/-- As much is found as expected, of the same weight. -/
structure Balances (weight : α → Nat) (found expected : List α) : Prop where
  length : found.length = expected.length
  weight : (found.map weight).sum = (expected.map weight).sum

theorem Outweighs.append (h : Outweighs weight found expected)
    (h' : Outweighs weight found' expected') :
    Outweighs weight (found ++ found') (expected ++ expected') := by
  have hlength := h.length
  have hlength' := h'.length
  constructor
  · rw [List.length_append, List.length_append]
    exact Nat.add_le_add hlength hlength'
  · rw [List.length_append, List.length_append, List.map_append, List.map_append, List.sum_append,
      List.sum_append]
    intro hall
    exact Nat.add_le_add (h.weight (by omega)) (h'.weight (by omega))

/-- What balances as a whole balances in both parts. -/
theorem Balances.of_append (h : Outweighs weight found expected)
    (h' : Outweighs weight found' expected')
    (hall : Balances weight (found ++ found') (expected ++ expected')) :
    Balances weight found expected ∧ Balances weight found' expected' := by
  have hlength := hall.length
  have hweight := hall.weight
  rw [List.length_append, List.length_append] at hlength
  rw [List.map_append, List.map_append, List.sum_append, List.sum_append] at hweight
  have hle := h.length
  have hle' := h'.length
  have hfirst : found.length = expected.length := by omega
  have hsecond : found'.length = expected'.length := by omega
  have hheavier := h.weight hfirst
  have hheavier' := h'.weight hsecond
  exact ⟨⟨hfirst, by omega⟩, ⟨hsecond, by omega⟩⟩

theorem Balances.of_perm (h : found.Perm expected) : Balances weight found expected :=
  ⟨h.length_eq, (h.map weight).sum_eq⟩

end Library
