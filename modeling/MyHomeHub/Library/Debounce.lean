import Mathlib.Data.List.Basic
import Mathlib.Order.Nat

/-!
# Debouncing

Each event sets a timer anew, so the timer fires once for a burst of events, when nothing
has happened for the delay. A timer may fire late but not early.

The record keeps when the events and the fires were. What is `Valid` of it says that a fire
never comes during a burst nor without an event, and `Answered` says that no event is
forgotten.
-/

namespace Library

/-- A debounced timer with its history. -/
structure Debounce where
  now : ℕ
  /-- When the timer is due, if it is set. -/
  due : Option ℕ := none
  events : List ℕ := []
  fires : List ℕ := []
  deriving DecidableEq, Repr

namespace Debounce

/-- Time passes. -/
def wait (d : Debounce) (ms : ℕ) : Debounce :=
  { d with now := d.now + ms }

/-- An event clears the timer and sets it again. -/
def event (d : Debounce) (delay : ℕ) : Debounce :=
  { d with due := some (d.now + delay), events := d.events ++ [d.now] }

/-- The timer fires. -/
def fire (d : Debounce) : Debounce :=
  { d with due := none, fires := d.fires ++ [d.now] }

/-- The timer is cleared. -/
def cancel (d : Debounce) : Debounce :=
  { d with due := none }

/-- The timer may fire. -/
def IsDue (d : Debounce) : Prop :=
  ∃ due, d.due = some due ∧ due ≤ d.now

/-- What the history of a timer says. -/
structure Valid (delay : ℕ) (d : Debounce) : Prop where
  past : (∀ event ∈ d.events, event ≤ d.now) ∧ ∀ fired ∈ d.fires, fired ≤ d.now
  /-- A timer that is set is due the delay after the last event, and has not fired since. -/
  pending : ∀ due, d.due = some due → ∃ last ∈ d.events, due = last + delay ∧
    (∀ event ∈ d.events, event ≤ last) ∧ ∀ fired ∈ d.fires, fired ≤ last
  /-- There is no event in the delay before a fire. -/
  quiet : ∀ fired ∈ d.fires, ∀ event ∈ d.events, event + delay ≤ fired ∨ fired ≤ event
  /-- Each fire is for an event. -/
  caused : ∀ fired ∈ d.fires, ∃ event ∈ d.events, event + delay ≤ fired
  /-- And for one that no fire before it was for. -/
  separate : d.fires.Pairwise fun earlier later =>
    ∃ event ∈ d.events, earlier ≤ event ∧ event + delay ≤ later

/-- A fire has come for every event, or the timer is set. -/
def Answered (delay : ℕ) (d : Debounce) : Prop :=
  d.due = none → ∀ event ∈ d.events, ∃ fired ∈ d.fires, event + delay ≤ fired

variable {delay ms : ℕ} {d : Debounce}

theorem Valid.start (delay now : ℕ) : Valid delay { now } :=
  ⟨⟨nofun, nofun⟩, nofun, nofun, nofun, .nil⟩

theorem Valid.wait (h : d.Valid delay) : (d.wait ms).Valid delay :=
  { h with
    past := ⟨fun event hevent => (h.past.1 event hevent).trans (Nat.le_add_right _ _),
      fun fired hfired => (h.past.2 fired hfired).trans (Nat.le_add_right _ _)⟩ }

theorem Valid.cancel (h : d.Valid delay) : d.cancel.Valid delay :=
  { h with pending := nofun }

theorem Valid.event (h : d.Valid delay) : (d.event delay).Valid delay where
  past := by
    refine ⟨fun event hevent => ?_, h.past.2⟩
    obtain hold | hnew := List.mem_append.mp hevent
    · exact h.past.1 event hold
    · exact (List.mem_singleton.mp hnew).le
  pending due hdue := by
    refine ⟨d.now, List.mem_append_right _ List.mem_cons_self, (Option.some.inj hdue).symm,
      fun event hevent => ?_, h.past.2⟩
    obtain hold | hnew := List.mem_append.mp hevent
    · exact h.past.1 event hold
    · exact (List.mem_singleton.mp hnew).le
  quiet fired hfired event hevent := by
    obtain hold | hnew := List.mem_append.mp hevent
    · exact h.quiet fired hfired event hold
    · exact .inr ((h.past.2 fired hfired).trans (List.mem_singleton.mp hnew).ge)
  caused fired hfired := by
    obtain ⟨event, hevent, hbefore⟩ := h.caused fired hfired
    exact ⟨event, List.mem_append_left _ hevent, hbefore⟩
  separate := h.separate.imp fun ⟨event, hevent, hbetween⟩ =>
    ⟨event, List.mem_append_left _ hevent, hbetween⟩

theorem Valid.fire (h : d.Valid delay) (hdue : d.IsDue) : d.fire.Valid delay := by
  obtain ⟨due, hset, hpassed⟩ := hdue
  obtain ⟨last, hlast, rfl, hevents, hfires⟩ := h.pending due hset
  refine ⟨⟨h.past.1, fun fired hfired => ?_⟩, nofun, fun fired hfired event hevent => ?_,
    fun fired hfired => ?_, ?_⟩
  · obtain hold | hnew := List.mem_append.mp hfired
    · exact h.past.2 fired hold
    · exact (List.mem_singleton.mp hnew).le
  · obtain hold | hnew := List.mem_append.mp hfired
    · exact h.quiet fired hold event hevent
    · rw [List.mem_singleton.mp hnew]
      exact .inl ((Nat.add_le_add_right (hevents event hevent) delay).trans hpassed)
  · obtain hold | hnew := List.mem_append.mp hfired
    · exact h.caused fired hold
    · exact ⟨last, hlast, hpassed.trans (List.mem_singleton.mp hnew).ge⟩
  · refine List.pairwise_append.mpr ⟨h.separate, List.pairwise_singleton _ _, ?_⟩
    intro earlier hearlier later hlater
    rw [List.mem_singleton.mp hlater]
    exact ⟨last, hlast, hfires earlier hearlier, hpassed⟩

/-- A fire answers all events. -/
theorem Valid.answered_of_fire (h : d.Valid delay) (hdue : d.IsDue) : d.fire.Answered delay := by
  intro _ event hevent
  obtain ⟨due, hset, hpassed⟩ := hdue
  obtain ⟨last, -, rfl, hevents, -⟩ := h.pending due hset
  exact ⟨d.now, List.mem_append_right _ List.mem_cons_self,
    (Nat.add_le_add_right (hevents event hevent) delay).trans hpassed⟩

theorem Answered.wait (h : d.Answered delay) : (d.wait ms).Answered delay :=
  h

theorem answered_of_event : (d.event delay).Answered delay :=
  nofun

end Debounce

end Library
