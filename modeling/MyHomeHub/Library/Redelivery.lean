import Mathlib.Data.List.Basic

/-!
# Messages that are delivered again

A message can be delivered again before the next one. A receiver that has nothing left to do
for a message that it has just handled ends as if each message had been delivered once
(`Absorbs.foldl_eq`). One that makes a change only if it accepts the result is such a receiver
when a change made twice is the change (`guarded_absorbs`).
-/

namespace Library

variable {State Message : Type*}

/-- Every message that was sent is delivered in its turn, once or several times. -/
inductive Redelivers : List Message → List Message → Prop where
  | nil : Redelivers [] []
  | next (message : Message) {sent delivered : List Message} (h : Redelivers sent delivered) :
      Redelivers (message :: sent) (message :: delivered)
  | again (message : Message) {sent delivered : List Message}
      (h : Redelivers (message :: sent) (message :: delivered)) :
      Redelivers (message :: sent) (message :: message :: delivered)

/-- A message that was handled last has no effect when it is handled again. -/
def Absorbs (step : State → Message → State) : Prop :=
  ∀ state message, step (step state message) message = step state message

/-- The receiver ends as if each message had been delivered once. -/
theorem Absorbs.foldl_eq {step : State → Message → State} (h : Absorbs step)
    {sent delivered : List Message} (hdelivered : Redelivers sent delivered) (state : State) :
    delivered.foldl step state = sent.foldl step state := by
  induction hdelivered generalizing state with
  | nil => rfl
  | next message _ ih => exact ih (step state message)
  | again message _ ih =>
      calc List.foldl step (step (step state message) message) _
          = List.foldl step (step state message) _ := by rw [h]
        _ = _ := ih state

/-- A change that is made only if its result is accepted. -/
def guarded (accepts : State → Prop) [DecidablePred accepts] (change : State → State)
    (state : State) : State :=
  if accepts (change state) then change state else state

theorem guarded_of_accepted {accepts : State → Prop} [DecidablePred accepts]
    {change : State → State} {state : State} (h : accepts (change state)) :
    guarded accepts change state = change state :=
  if_pos h

theorem guarded_of_refused {accepts : State → Prop} [DecidablePred accepts]
    {change : State → State} {state : State} (h : ¬ accepts (change state)) :
    guarded accepts change state = state :=
  if_neg h

theorem guarded_absorbs {accepts : Message → State → Prop}
    [∀ message, DecidablePred (accepts message)] {change : Message → State → State}
    (h : ∀ message state, change message (change message state) = change message state) :
    Absorbs fun state message => guarded (accepts message) (change message) state := by
  intro state message
  by_cases haccepted : accepts message (change message state)
  · dsimp only
    rw [guarded_of_accepted haccepted, guarded_of_accepted ((h message state).symm ▸ haccepted), h]
  · dsimp only
    rw [guarded_of_refused haccepted, guarded_of_refused haccepted]

end Library
