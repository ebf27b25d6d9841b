import Mathlib.Data.List.Pairwise

/-!
# Loops that stop at the first failure

A loop goes through a list of items and takes a step for each. A step changes the state and
may fail; the first failure ends the loop, and what was done before it stays. If the steps
for different items do not interfere, the loop completes every item whose own step would
succeed exactly when no failing item stands before one that is still to be completed.
-/

namespace Library

variable {State Item Error : Type}

/-- Take the steps for the items until one fails. -/
def runUntilFailure (step : State → Item → State × Option Error) (state : State) :
    List Item → State × Option Error
  | [] => (state, none)
  | item :: items =>
      match step state item with
      | (next, none) => runUntilFailure step next items
      | (next, some error) => (next, some error)

/-- The step for the item succeeds. -/
def Succeeds (step : State → Item → State × Option Error) (state : State) (item : Item) : Prop :=
  (step state item).2 = none

/-- Steps that complete their item and do not interfere with the others. -/
structure Separate (step : State → Item → State × Option Error) (inv : State → Prop)
    (valid : Item → Prop) (apart : Item → Item → Prop) (done : Item → State → Prop) : Prop where
  keeps : ∀ state item, inv state → valid item → inv (step state item).1
  completes : ∀ state item, inv state → valid item → Succeeds step state item →
    done item (step state item).1
  done_iff : ∀ state item other, inv state → valid item → valid other → apart item other →
    (done other (step state item).1 ↔ done other state)
  succeeds_iff : ∀ state item other, inv state → valid item → valid other → apart item other →
    (Succeeds step (step state item).1 other ↔ Succeeds step state other)

variable {step : State → Item → State × Option Error} {inv : State → Prop} {valid : Item → Prop}
  {apart : Item → Item → Prop} {done : Item → State → Prop} {state : State} {item : Item}
  {items : List Item}

theorem run_cons_of_succeeds (h : Succeeds step state item) :
    runUntilFailure step state (item :: items) =
      runUntilFailure step (step state item).1 items := by
  rw [runUntilFailure]
  split
  · rename_i next hstep
    rw [hstep]
  · rename_i next error hstep
    rw [Succeeds, hstep] at h
    cases h

theorem run_cons_of_fails (h : ¬ Succeeds step state item) :
    runUntilFailure step state (item :: items) = step state item := by
  rw [runUntilFailure]
  split
  · rename_i next hstep
    rw [Succeeds, hstep] at h
    exact absurd rfl h
  · rename_i next error hstep
    exact hstep.symm

/-- The loop does not touch an item that is apart from its items. -/
theorem Separate.run_done_iff (h : Separate step inv valid apart done) (hstate : inv state)
    (hvalid : ∀ other ∈ items, valid other) (hitem : valid item)
    (hapart : ∀ other ∈ items, apart other item) :
    done item (runUntilFailure step state items).1 ↔ done item state := by
  induction items generalizing state with
  | nil => rfl
  | cons first items ih =>
      have hfirst := hvalid first List.mem_cons_self
      have hstep := h.done_iff state first item hstate hfirst hitem
        (hapart first List.mem_cons_self)
      by_cases hsucceeds : Succeeds step state first
      · rw [run_cons_of_succeeds hsucceeds, ← hstep]
        exact ih (h.keeps state first hstate hfirst)
          (fun other hother => hvalid other (List.mem_cons_of_mem _ hother))
          fun other hother => hapart other (List.mem_cons_of_mem _ hother)
      · rw [run_cons_of_fails hsucceeds, hstep]

/-- The loop completes every item whose own step would succeed exactly when no failing item stands
before one that would succeed and is not done. -/
theorem Separate.run_completes_iff (h : Separate step inv valid apart done)
    (hsymm : ∀ a b, apart a b → apart b a) (hstate : inv state)
    (hvalid : ∀ item ∈ items, valid item) (hapart : items.Pairwise apart) :
    (∀ item ∈ items, Succeeds step state item →
        done item (runUntilFailure step state items).1) ↔
      items.Pairwise fun failing item => ¬ Succeeds step state failing →
        Succeeds step state item → done item state := by
  induction items generalizing state with
  | nil => simp
  | cons first items ih =>
      obtain ⟨hfirstApart, hrestApart⟩ := List.pairwise_cons.mp hapart
      have hfirst := hvalid first List.mem_cons_self
      have hrest : ∀ item ∈ items, valid item :=
        fun item hitem => hvalid item (List.mem_cons_of_mem _ hitem)
      have hkept := h.keeps state first hstate hfirst
      have hdone : ∀ item ∈ items, (done item (step state first).1 ↔ done item state) :=
        fun item hitem =>
          h.done_iff state first item hstate hfirst (hrest item hitem) (hfirstApart item hitem)
      rw [List.forall_mem_cons, List.pairwise_cons]
      by_cases hsucceeds : Succeeds step state first
      · -- the loop goes on, and the other items succeed or fail as before
        have hsame : ∀ item ∈ items,
            (Succeeds step (step state first).1 item ↔ Succeeds step state item) :=
          fun item hitem => h.succeeds_iff state first item hstate hfirst (hrest item hitem)
            (hfirstApart item hitem)
        have hcompleted : done first (runUntilFailure step (step state first).1 items).1 := by
          refine (h.run_done_iff hkept hrest hfirst ?_).mpr
            (h.completes state first hstate hfirst hsucceeds)
          exact fun other hother => hsymm first other (hfirstApart other hother)
        have hlater := ih hkept hrest hrestApart
        rw [run_cons_of_succeeds hsucceeds, and_iff_right fun _ => hcompleted,
          and_iff_right fun item hitem hfails => absurd hsucceeds hfails]
        constructor
        · intro hall
          have hpairs := hlater.mp fun item hitem hitemSucceeds =>
            hall item hitem ((hsame item hitem).mp hitemSucceeds)
          refine hpairs.imp_of_mem ?_
          intro failing item hfailing hitem hpair hfails hitemSucceeds
          exact (hdone item hitem).mp (hpair (fun hnow => hfails ((hsame failing hfailing).mp hnow))
            ((hsame item hitem).mpr hitemSucceeds))
        · intro hpairs item hitem hitemSucceeds
          refine hlater.mpr ?_ item hitem ((hsame item hitem).mpr hitemSucceeds)
          refine hpairs.imp_of_mem ?_
          intro failing item hfailing hitem hpair hfails hitemSucceeds
          exact (hdone item hitem).mpr (hpair
            (fun hnow => hfails ((hsame failing hfailing).mpr hnow))
              ((hsame item hitem).mp hitemSucceeds))
      · -- the loop ends here, so the other items are as they were
        rw [run_cons_of_fails hsucceeds, and_iff_right fun hnow => absurd hnow hsucceeds]
        constructor
        · intro hall
          refine ⟨fun item hitem _ hitemSucceeds =>
            (hdone item hitem).mp (hall item hitem hitemSucceeds), ?_⟩
          refine List.pairwise_of_forall_mem_list fun failing _ item hitem _ hitemSucceeds => ?_
          exact (hdone item hitem).mp (hall item hitem hitemSucceeds)
        · intro hpairs item hitem hitemSucceeds
          exact (hdone item hitem).mpr (hpairs.1 item hitem hsucceeds hitemSucceeds)

end Library
