import Mathlib.Logic.Relation

/-!
# Runs and invariants

A system takes steps that are labelled with actions. `Reaches step allowed s t` says that
some finite run leads from `s` to `t` and that each of its actions was allowed in the
state it was taken in. Allowing every action gives all runs of the system; a property of
the restricted runs says under which actions it holds.
-/

namespace Library

variable {State Action : Type}

/-- A step of the system by an allowed action. -/
def StepBy (step : State → Action → State → Prop) (allowed : State → Action → Prop)
    (s t : State) : Prop :=
  ∃ action, allowed s action ∧ step s action t

/-- A finite run of allowed actions. -/
abbrev Reaches (step : State → Action → State → Prop) (allowed : State → Action → Prop) :
    State → State → Prop :=
  Relation.ReflTransGen (StepBy step allowed)

/-- Every action is allowed in every state. -/
def anyAction : State → Action → Prop :=
  fun _ _ => True

variable {step : State → Action → State → Prop} {allowed : State → Action → Prop}
  {s t : State}

/-- A property that every allowed step preserves holds at the end of a run. -/
theorem Reaches.invariant {inv : State → Prop} (h : Reaches step allowed s t) (hs : inv s)
    (hstep : ∀ s action t, inv s → allowed s action → step s action t → inv t) : inv t := by
  induction h with
  | refl => exact hs
  | tail _ hlast ih =>
      obtain ⟨action, hallowed, hstepped⟩ := hlast
      exact hstep _ action _ ih hallowed hstepped

/-- A run of one allowed step. -/
theorem Reaches.of_step {action : Action} (hallowed : allowed s action)
    (h : step s action t) : Reaches step allowed s t :=
  .single ⟨action, hallowed, h⟩

/-- A run of allowed actions is a run. -/
theorem Reaches.of_allowed (h : Reaches step allowed s t) : Reaches step anyAction s t := by
  refine Relation.ReflTransGen.mono ?_ _ _ h
  intro _ _ hstep
  obtain ⟨action, -, hstepped⟩ := hstep
  exact ⟨action, trivial, hstepped⟩

/-- Every run is watched by a system that records more than the state, if that system can follow
each step. -/
theorem Reaches.recorded {Recorded : Type} {recordedStep : Recorded → Action → Recorded → Prop}
    (state : Recorded → State) (start : Recorded)
    (hfollows : ∀ r action t, step (state r) action t →
      ∃ r', recordedStep r action r' ∧ state r' = t)
    (h : Reaches step anyAction (state start) t) :
    ∃ r, Reaches recordedStep anyAction start r ∧ state r = t := by
  induction h with
  | refl => exact ⟨start, .refl, rfl⟩
  | tail _ hlast ih =>
      obtain ⟨r, hrun, rfl⟩ := ih
      obtain ⟨action, hallowed, hstepped⟩ := hlast
      obtain ⟨r', hrecorded, hstate⟩ := hfollows r action _ hstepped
      exact ⟨r', hrun.tail ⟨action, hallowed, hrecorded⟩, hstate⟩

/-! ## Runs with their actions -/

/-- A finite run, with the actions it has taken from the first to the last. -/
inductive Trace (step : State → Action → State → Prop) (start : State) :
    List Action → State → Prop where
  | nil : Trace step start [] start
  | snoc {actions : List Action} {action : Action} {s t : State}
      (hbefore : Trace step start actions s) (hlast : step s action t) :
      Trace step start (actions ++ [action]) t

/-- A property of the state and of the actions taken so far that every step preserves. -/
theorem Trace.invariant {inv : List Action → State → Prop} {actions : List Action}
    (h : Trace step s actions t) (hs : inv [] s)
    (hstep : ∀ actions s action t, inv actions s → step s action t → inv (actions ++ [action]) t) :
    inv actions t := by
  induction h with
  | nil => exact hs
  | snoc _ hlast ih => exact hstep _ _ _ _ ih hlast

theorem Trace.reaches {actions : List Action} (h : Trace step s actions t) :
    Reaches step anyAction s t := by
  induction h with
  | nil => exact .refl
  | snoc _ hlast ih => exact ih.tail ⟨_, trivial, hlast⟩

/-! ## Walks down a value -/

/-- A property that every value shares with its parts, which are smaller, holds of all values that
are reached from part to part. -/
theorem forall_reached_iff {α : Type} {part : α → α → Prop} {size : α → Nat}
    {holds own : α → Prop} (hsize : ∀ a b, part a b → size b < size a)
    (hparts : ∀ a, holds a ↔ own a ∧ ∀ b, part a b → holds b) {a : α} :
    holds a ↔ ∀ b, Relation.ReflTransGen part a b → own b := by
  constructor
  · intro h b hreached
    have hb : holds b := by
      induction hreached with
      | refl => exact h
      | tail _ hlast ih => exact ((hparts _).mp ih).2 _ hlast
    exact ((hparts b).mp hb).1
  · induction hn : size a using Nat.strongRecOn generalizing a with
    | _ n ih =>
        subst hn
        intro hall
        refine (hparts a).mpr ⟨hall a .refl, fun b hb => ih (size b) (hsize a b hb) rfl ?_⟩
        exact fun c hc => hall c (.head hb hc)

end Library
