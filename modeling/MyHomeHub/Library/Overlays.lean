import Mathlib.Data.Option.Basic

/-!
# Changes laid over a base

A change sets the values of some keys and keeps the values of a base at the others, or it
replaces the base altogether. Two changes can set different keys and still come to the
same over one base: `onto_eq_iff` compares them by what they set.
-/

namespace Library

/-- A change of a partial function. -/
structure Change (κ α : Type) where
  sets : κ → Option α
  replaces : Bool

namespace Change

variable {κ α : Type} {change other : Change κ α} {base : κ → Option α} {key : κ}

/-- The base with a change laid over it. -/
def onto (change : Change κ α) (base : κ → Option α) (key : κ) : Option α :=
  (change.sets key).or (if change.replaces then none else base key)

theorem onto_of_sets {value : α} (h : change.sets key = some value) :
    change.onto base key = some value := by
  rw [onto, h, Option.some_or]

theorem onto_of_free (h : change.sets key = none) :
    change.onto base key = if change.replaces then none else base key := by
  rw [onto, h, Option.none_or]

/-- A change that is made again has nothing left to do. -/
theorem onto_onto : change.onto (change.onto base) = change.onto base := by
  funext key
  cases hset : change.sets key with
  | some value => rw [onto_of_sets hset, onto_of_sets hset]
  | none =>
      rw [onto_of_free hset, onto_of_free hset]
      split <;> rfl

/-- A change leaves a base as it is: it sets what the base has already, and it drops nothing. -/
structure Leaves (change : Change κ α) (base : κ → Option α) : Prop where
  set : ∀ key value, change.sets key = some value → base key = some value
  free : change.replaces = true → ∀ key, change.sets key = none → base key = none

/-- Two changes do the same to a base: keys that both set get the same value, a key that only one of
them sets has this value in the base and keeps it under the other, and if only one of them
replaces the base, then the base has no key that neither sets. -/
structure Alike (change other : Change κ α) (base : κ → Option α) : Prop where
  both : ∀ key value otherValue, change.sets key = some value →
    other.sets key = some otherValue → value = otherValue
  left : ∀ key value, change.sets key = some value → other.sets key = none →
    other.replaces = false ∧ base key = some value
  right : ∀ key value, change.sets key = none → other.sets key = some value →
    change.replaces = false ∧ base key = some value
  neither : change.replaces ≠ other.replaces → ∀ key, change.sets key = none →
    other.sets key = none → base key = none

/-- A value stays at a key of a base if the base has it and the change keeps it. -/
theorem stays_iff {replaces : Bool} {value : α} :
    (if replaces then none else base key) = some value ↔
      replaces = false ∧ base key = some value := by
  cases replaces with
  | false => exact (and_iff_right rfl).symm
  | true => exact iff_of_false (fun h => by cases h) fun h => by cases h.1

theorem onto_eq_base_iff :
    change.onto base = base ↔ change.Leaves base := by
  constructor
  · intro h
    refine ⟨fun key value hset => ?_, fun hreplaces key hfree => ?_⟩
    · rw [← congrFun h key, onto_of_sets hset]
    · rw [← congrFun h key, onto_of_free hfree, if_pos hreplaces]
  · intro h
    funext key
    cases hset : change.sets key with
    | some value => rw [onto_of_sets hset, h.set key value hset]
    | none =>
        rw [onto_of_free hset]
        cases hreplaces : change.replaces with
        | true => rw [if_pos rfl, h.free hreplaces key hset]
        | false => rw [if_neg Bool.false_ne_true]

theorem onto_eq_iff :
    change.onto base = other.onto base ↔ change.Alike other base := by
  constructor
  · intro h
    refine ⟨fun key value otherValue hset hother => ?_, fun key value hset hother => ?_,
      fun key value hset hother => ?_, fun hreplaces key hset hother => ?_⟩
    · have hkey := congrFun h key
      rw [onto_of_sets hset, onto_of_sets hother] at hkey
      exact Option.some.inj hkey
    · have hkey := congrFun h key
      rw [onto_of_sets hset, onto_of_free hother] at hkey
      exact stays_iff.mp hkey.symm
    · have hkey := congrFun h key
      rw [onto_of_free hset, onto_of_sets hother] at hkey
      exact stays_iff.mp hkey
    · have hkey := congrFun h key
      rw [onto_of_free hset, onto_of_free hother] at hkey
      cases hone : change.replaces with
      | true =>
          have htwo : other.replaces = false := by
            rwa [hone, ne_comm, ne_eq, Bool.not_eq_true] at hreplaces
          rw [hone, htwo] at hkey
          exact hkey.symm
      | false =>
          have htwo : other.replaces = true := by
            rwa [hone, ne_comm, ne_eq, Bool.not_eq_false] at hreplaces
          rw [hone, htwo] at hkey
          exact hkey
  · intro h
    funext key
    cases hset : change.sets key with
    | some value =>
        cases hother : other.sets key with
        | some otherValue =>
            rw [onto_of_sets hset, onto_of_sets hother, h.both key value otherValue hset hother]
        | none =>
            rw [onto_of_sets hset, onto_of_free hother,
              stays_iff.mpr (h.left key value hset hother)]
    | none =>
        cases hother : other.sets key with
        | some value =>
            rw [onto_of_free hset, onto_of_sets hother,
              stays_iff.mpr (h.right key value hset hother)]
        | none =>
            rw [onto_of_free hset, onto_of_free hother]
            by_cases hreplaces : change.replaces = other.replaces
            · rw [hreplaces]
            · rw [h.neither hreplaces key hset hother, ite_self, ite_self]

end Change

end Library
