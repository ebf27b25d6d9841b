import Mathlib.Logic.Function.Basic

/-!
# Two read-modify-write calls

Two callers change one register. Each of them reads it, computes a new value from what
it has read, and writes the result, and a schedule says who takes the next step. What a
caller writes may depend on the value it has read and on the value it overwrites.

`register_after` says what the register holds once both are done. If one caller takes all
of its steps before the other one reads, the second one builds on the first. Otherwise
both have read the initial value, and the second write does not know of the first.
-/

namespace Library

/-- The two callers. -/
inductive Caller where
  | first
  | second
  deriving DecidableEq, Repr

/-- The other caller. -/
def Caller.other : Caller → Caller
  | .first => .second
  | .second => .first

@[simp] theorem Caller.other_other (caller : Caller) : caller.other.other = caller := by
  cases caller <;> rfl

theorem Caller.eq_or_other (caller turn : Caller) : turn = caller ∨ turn = caller.other := by
  cases caller <;> cases turn <;> simp [Caller.other]

theorem Caller.other_ne (caller : Caller) : caller.other ≠ caller := by
  cases caller <;> simp [Caller.other]

namespace ReadModifyWrite

variable {V : Type}

/-- Where a caller is, with the value it has read. -/
inductive Phase (V : Type) where
  | started
  | loaded (value : V)
  | merged (value : V)
  | saved

/-- The register and the phases of the callers. -/
structure Race (V : Type) where
  register : V
  phases : Caller → Phase V

/-- The next step of a caller. -/
def step (write : Caller → V → V → V) (race : Race V) (caller : Caller) : Race V :=
  match race.phases caller with
  | .started =>
      { race with phases := Function.update race.phases caller (.loaded race.register) }
  | .loaded value => { race with phases := Function.update race.phases caller (.merged value) }
  | .merged value =>
      ⟨write caller value race.register, Function.update race.phases caller .saved⟩
  | .saved => race

/-- The callers take turns as a schedule says. -/
def run (write : Caller → V → V → V) (race : Race V) (schedule : List Caller) : Race V :=
  schedule.foldl (step write) race

/-- Neither caller has taken a step. -/
def start (value : V) : Race V :=
  ⟨value, fun _ => .started⟩

/-- One caller takes all of its steps before the other one takes its first. -/
def Serial (schedule : List Caller) : Prop :=
  ∃ caller, schedule.take 3 = [caller, caller, caller]

/-- A caller has read a value and not yet written. -/
def Holds (race : Race V) (caller : Caller) (value : V) : Prop :=
  race.phases caller = .loaded value ∨ race.phases caller = .merged value

/-- Both callers are done. -/
def Done (race : Race V) : Prop :=
  ∀ caller, race.phases caller = .saved

variable {write : Caller → V → V → V} {race : Race V} {caller turn : Caller} {value : V}
  {schedule : List Caller}

/-! ## One step -/

theorem step_started (write : Caller → V → V → V) (h : race.phases caller = .started) :
    (step write race caller).register = race.register ∧
      (step write race caller).phases caller = .loaded race.register := by
  simp [step, h]

theorem step_loaded (write : Caller → V → V → V) (h : race.phases caller = .loaded value) :
    (step write race caller).register = race.register ∧
      (step write race caller).phases caller = .merged value := by
  simp [step, h]

theorem step_merged (write : Caller → V → V → V) (h : race.phases caller = .merged value) :
    (step write race caller).register = write caller value race.register ∧
      (step write race caller).phases caller = .saved := by
  simp [step, h]

theorem step_saved (h : race.phases caller = .saved) : step write race caller = race := by
  rw [step, h]

/-- A step of one caller leaves the phase of the other. -/
theorem step_other (write : Caller → V → V → V) (race : Race V) (hturn : turn ≠ caller) :
    (step write race turn).phases caller = race.phases caller := by
  unfold step
  split <;> simp [Function.update_of_ne hturn.symm]

/-- A caller that holds a value computes or writes. -/
theorem step_holds (write : Caller → V → V → V) (h : Holds race caller value) :
    ((step write race caller).register = race.register ∧
      (step write race caller).phases caller = .merged value) ∨
    ((step write race caller).register = write caller value race.register ∧
      (step write race caller).phases caller = .saved) := by
  rcases h with h | h
  · exact .inl (step_loaded write h)
  · exact .inr (step_merged write h)

/-! ## Runs -/

theorem run_cons : run write race (turn :: schedule) = run write (step write race turn) schedule :=
  rfl

theorem not_done_of_holds (h : Holds race caller value) : ¬ Done race := by
  intro hdone
  rcases h with h | h <;> cases h.symm.trans (hdone caller)

/-- When both callers are done, nothing happens any more. -/
theorem run_done (h : Done race) : run write race schedule = race := by
  induction schedule with
  | nil => rfl
  | cons turn schedule ih => rw [run_cons, step_saved (h turn), ih]

theorem done_of_saved (hcaller : race.phases caller = .saved)
    (hother : race.phases caller.other = .saved) : Done race := by
  intro turn
  rcases caller.eq_or_other turn with rfl | rfl
  · exact hcaller
  · exact hother

/-- When one caller is done, the other one writes what it makes of the value it has read. -/
theorem register_of_saved (hsaved : race.phases caller = .saved)
    (hholds : Holds race caller.other value) (hdone : Done (run write race schedule)) :
    (run write race schedule).register = write caller.other value race.register := by
  induction schedule generalizing race with
  | nil => exact absurd hdone (not_done_of_holds hholds)
  | cons turn schedule ih =>
      rw [run_cons] at hdone ⊢
      rcases caller.eq_or_other turn with rfl | rfl
      · rw [step_saved hsaved] at hdone ⊢
        exact ih hsaved hholds hdone
      · have hstill := (step_other write _ caller.other_ne).trans hsaved
        rcases step_holds write hholds with ⟨hregister, hphase⟩ | ⟨hregister, hphase⟩
        · rw [ih hstill (.inr hphase) hdone, hregister]
        · rw [run_done (done_of_saved hstill hphase), hregister]

/-- When one caller is done, the other one builds on what it finds. -/
theorem register_of_saved_started (hsaved : race.phases caller = .saved)
    (hstarted : race.phases caller.other = .started) (hdone : Done (run write race schedule)) :
    (run write race schedule).register =
      write caller.other race.register race.register := by
  induction schedule generalizing race with
  | nil => cases hstarted.symm.trans (hdone caller.other)
  | cons turn schedule ih =>
      rw [run_cons] at hdone ⊢
      rcases caller.eq_or_other turn with rfl | rfl
      · rw [step_saved hsaved] at hdone ⊢
        exact ih hsaved hstarted hdone
      · have hstill := (step_other write _ caller.other_ne).trans hsaved
        obtain ⟨hregister, hphase⟩ := step_started write hstarted
        rw [register_of_saved hstill (.inl hphase) hdone, hregister]

/-- When both callers have read the same value, each of them writes what it makes of that value. -/
theorem register_of_overlap (hholds : ∀ caller, Holds race caller race.register)
    (hdone : Done (run write race schedule)) :
    ∃ caller, (run write race schedule).register =
      write caller.other race.register (write caller race.register race.register) := by
  induction schedule generalizing race with
  | nil => exact absurd hdone (not_done_of_holds (hholds .first))
  | cons turn schedule ih =>
      rw [run_cons] at hdone ⊢
      have hother : Holds (step write race turn) turn.other race.register := by
        have hsame := step_other write race turn.other_ne.symm
        rw [Holds, hsame]
        exact hholds turn.other
      rcases step_holds write (hholds turn) with
        ⟨hregister, hphase⟩ | ⟨hregister, hphase⟩
      · rw [← hregister]
        refine ih (fun caller => ?_) hdone
        rw [hregister]
        rcases turn.eq_or_other caller with rfl | rfl
        · exact .inr hphase
        · exact hother
      · exact ⟨turn, by rw [register_of_saved hphase hother hdone, hregister]⟩

/-- When one caller reads before the other one has written, both have read the same value. -/
theorem register_of_early_read (hholds : Holds race caller race.register)
    (hstarted : race.phases caller.other = .started)
    (hdone : Done (run write race (caller.other :: schedule))) :
    ∃ turn, (run write race (caller.other :: schedule)).register =
      write turn.other race.register (write turn race.register race.register) := by
  rw [run_cons] at hdone ⊢
  obtain ⟨hregister, hphase⟩ := step_started write hstarted
  rw [← hregister]
  refine register_of_overlap (fun turn => ?_) hdone
  rw [hregister]
  rcases caller.eq_or_other turn with rfl | rfl
  · rw [Holds, step_other _ _ turn.other_ne]
    exact hholds
  · exact .inl hphase

theorem not_serial_of_early_read :
    ¬ Serial (caller :: caller.other :: schedule) ∧
      ¬ Serial (caller :: caller :: caller.other :: schedule) := by
  have hne := caller.other_ne
  refine ⟨fun ⟨turn, h⟩ => hne ?_, fun ⟨turn, h⟩ => hne ?_⟩
  · rw [List.take_succ_cons, List.take_succ_cons, List.cons.injEq, List.cons.injEq] at h
    exact h.2.1.trans h.1.symm
  · simp only [List.take_succ_cons, List.cons.injEq] at h
    exact h.2.2.1.trans h.1.symm

/-- What two calls leave in the register: the second one builds on the first exactly when the
schedule is serial. -/
theorem register_after (hdone : Done (run write (start value) schedule)) :
    (Serial schedule ∧ ∃ caller, (run write (start value) schedule).register =
      write caller.other (write caller value value) (write caller value value)) ∨
    (¬ Serial schedule ∧ ∃ caller, (run write (start value) schedule).register =
      write caller.other value (write caller value value)) := by
  cases schedule with
  | nil => cases hdone .first
  | cons caller schedule =>
      -- the first caller has read
      have hread := @step_started _ (start value) caller write rfl
      have hother : (step write (start value) caller).phases caller.other = .started :=
        step_other write _ caller.other_ne.symm
      rw [run_cons] at hdone ⊢
      generalize step write (start value) caller = loaded at hread hother hdone ⊢
      obtain ⟨hregister, hloaded⟩ := hread
      change loaded.register = value at hregister
      change loaded.phases caller = .loaded value at hloaded
      subst hregister
      cases schedule with
      | nil => exact absurd hdone (not_done_of_holds (.inl hloaded))
      | cons turn schedule =>
          rcases caller.eq_or_other turn with rfl | rfl
          · -- it has computed
            have hmerge := step_loaded write hloaded
            have hstarted := (step_other write _ turn.other_ne.symm).trans hother
            rw [run_cons] at hdone ⊢
            generalize step write loaded turn = merged at hmerge hstarted hdone ⊢
            obtain ⟨hregister, hmerged⟩ := hmerge
            rw [← hregister] at hmerged ⊢
            cases schedule with
            | nil => exact absurd hdone (not_done_of_holds (.inr hmerged))
            | cons next schedule =>
                rcases turn.eq_or_other next with rfl | rfl
                · -- it has written before the other one reads
                  obtain ⟨hwritten, hsaved⟩ := step_merged write hmerged
                  have hstill := (step_other write _ next.other_ne.symm).trans hstarted
                  refine .inl ⟨⟨next, rfl⟩, next, ?_⟩
                  rw [run_cons] at hdone ⊢
                  rw [register_of_saved_started hsaved hstill hdone, hwritten]
                · exact .inr ⟨not_serial_of_early_read.2,
                    register_of_early_read (.inr hmerged) hstarted hdone⟩
          · exact .inr ⟨not_serial_of_early_read.1,
              register_of_early_read (.inl hloaded) hother hdone⟩

end ReadModifyWrite

end Library
