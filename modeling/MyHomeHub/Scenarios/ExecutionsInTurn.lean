import MyHomeHub.Library.Runs
import MyHomeHub.Scenarios.RepeatTimes

/-!
# Executions in turn

An execution counts down from the document that it was handed, and a job that has fired does
not look whether the scenario is still active. So an execution may emit for an outdated
count once another one has overtaken it: another one has emitted since it was started, or
had emitted then and was not through with `updateScenario`.

A record tells which executions are overtaken. It only watches: every run has a record. When
no overtaken execution emits, the executions are counted down one by one, whatever else they
do at once.
-/

namespace MyHomeHub.ScenariosExecution

open JavaScript Library DevicesService ScenarioSchema ScenarioGroups ScenariosService
  ScenariosValidator

/-! ## The record -/

/-- The executions, numbered in the order in which they were started, and which of them are
overtaken. -/
structure RecordedExecutions where
  state : Executions
  overtaken : Nat → Bool := fun _ => false

/-- The record after a step. An execution is overtaken from its start on if another one has emitted
and is not settled, and a step that emits overtakes the executions that were started. -/
def RecordedExecutions.record (r : RecordedExecutions) (action : ExecutionAction)
    (t : Executions) : RecordedExecutions where
  state := t
  overtaken :=
    match action with
    | .tick | .trigger _ _ =>
        Function.update r.overtaken r.state.phases.length (0 < r.state.unsettled)
    | .proceed _ _ =>
        if t.emissions.length = r.state.emissions.length then r.overtaken else fun _ => true
    | .elsewhere _ => r.overtaken

section

variable [ExternalCalls]

/-- The steps with their records. -/
inductive RecordedStep (externalId : String) (r : RecordedExecutions) :
    ExecutionAction → RecordedExecutions → Prop
  | step {action : ExecutionAction} {t : Executions}
      (h : ExecutionStep externalId r.state action t) :
      RecordedStep externalId r action (r.record action t)

/-- No overtaken execution emits. -/
def EmitsInTurn (r : RecordedExecutions) : ExecutionAction → Prop
  | .proceed i devicesAt => ∀ scenario context,
      r.state.phases[i]? = some (.handed scenario context) →
        Executes devicesAt scenario context → r.overtaken i = false
  | _ => True

/-- Every run has a record. -/
theorem exists_record {externalId : String} {s t : Executions}
    (h : Reaches (ExecutionStep externalId) anyAction s t) :
    ∃ overtaken,
      Reaches (RecordedStep externalId) anyAction ⟨s, fun _ => false⟩ ⟨t, overtaken⟩ := by
  obtain ⟨r, hrun, rfl⟩ := Reaches.recorded RecordedExecutions.state ⟨s, fun _ => false⟩
    (fun r action t hstep => ⟨_, RecordedStep.step (r := r) hstep, rfl⟩) h
  exact ⟨r.overtaken, hrun⟩

end

/-! ## What the executions hold -/

variable {start : Scenario} {times executed : Nat} {externalId : String}

/-- What an execution holds, when the stored scenario has been executed that often. -/
def ExecutionPhase.InTurn (externalId : String) (start : Scenario) (times executed : Nat) :
    ExecutionPhase → Prop
  | .ticked | .handed _ _ | .ended => True
  | .decrementing scenario payload => scenario.externalId = externalId ∧
      repeatTimesPayload (countedDown start times executed) = some payload
  | .loaded payload scenario => scenario = countedDown start times executed ∧
      repeatTimesPayload scenario = some payload
  | .saved oldScenario updatedScenario => ∃ before,
      oldScenario = countedDown start times before ∧
        updatedScenario = countedDown start times (before + 1) ∧
        (isCronScenario start = true → before + 1 = executed)

/-- An execution that may emit: the stored scenario is active, no other execution is unsettled, and
the document that was handed is the stored one. -/
def ExecutionPhase.UpToDate (unsettled : Nat) (stored : Scenario) : ExecutionPhase → Prop
  | .ticked => unsettled = 0 ∧ stored.active = true
  | .handed scenario _ => unsettled = 0 ∧ stored.active = true ∧ scenario = stored
  | _ => True

/-- The stored scenario has been counted down once for each execution that has saved, and the
executions take turns at it. -/
structure InTurn (externalId : String) (start : Scenario) (times executed : Nat)
    (r : RecordedExecutions) : Prop where
  stored : findByExternalId r.state.hub.scenarios externalId =
    some (countedDown start times executed)
  emitted : r.state.emissions.length = executed + r.state.pending
  unsettled_le : r.state.unsettled ≤ 1
  emitted_le : executed + r.state.pending ≤ times
  /-- The job of the scenario is not left behind by the last execution. -/
  jobs : ∀ job ∈ r.state.hub.jobs, job.externalId = externalId →
    jobOf start = some job ∧ (executed < times ∨ 0 < r.state.unsettled)
  phases : ∀ phase ∈ r.state.phases, phase.InTurn externalId start times executed
  started : ∀ (i : Nat) phase, r.state.phases[i]? = some phase → r.overtaken i = true ∨
    phase.UpToDate r.state.unsettled (countedDown start times executed)

/-! ## Counting phases -/

variable {r : RecordedExecutions} {phases : List ExecutionPhase} {i : Nat}
  {phase next : ExecutionPhase}

/-- The number of executions of a kind when one of them takes a step. -/
theorem count_set (p : ExecutionPhase → Bool) (next : ExecutionPhase)
    (h : phases[i]? = some phase) :
    (phases.set i next).countP p + (if p phase then 1 else 0) =
      phases.countP p + (if p next then 1 else 0) := by
  obtain ⟨hi, hphase⟩ := List.getElem?_eq_some_iff.mp h
  have hcount := List.countP_set (p := p) (a := next) hi
  rw [hphase] at hcount
  have hle : (if p phase then 1 else 0) ≤ phases.countP p := by
    split
    · rename_i hp
      exact List.countP_pos_iff.mpr ⟨phase, List.mem_of_getElem? h, hp⟩
    · exact Nat.zero_le _
  rw [hcount]
  omega

/-- A step that does not change the kind of an execution does not change the number. -/
theorem count_set_same {p : ExecutionPhase → Bool} (h : phases[i]? = some phase)
    (hsame : p next = p phase) : (phases.set i next).countP p = phases.countP p := by
  have hset := count_set p next h
  rw [hsame] at hset
  exact Nat.add_right_cancel hset

/-- While one execution is unsettled there is no other one. -/
theorem eq_of_unsettled {j : Nat} {other : ExecutionPhase}
    (hle : phases.countP (·.isUnsettled) ≤ 1) (hi : phases[i]? = some phase)
    (hj : phases[j]? = some other) (hphase : phase.isUnsettled = true)
    (hother : other.isUnsettled = true) : i = j := by
  by_contra hne
  have hset := count_set (·.isUnsettled) .ended hi
  have hrest : 0 < (phases.set i .ended).countP (·.isUnsettled) := by
    refine List.countP_pos_iff.mpr ⟨other, ?_, hother⟩
    exact List.mem_of_getElem? ((List.getElem?_set_ne hne).trans hj)
  rw [if_pos hphase] at hset
  have hended : (if ExecutionPhase.ended.isUnsettled = true then 1 else 0) = 0 := rfl
  omega

/-- A pending execution is unsettled. -/
theorem pending_le_unsettled (s : Executions) : s.pending ≤ s.unsettled := by
  refine List.countP_mono_left fun phase _ hpending => ?_
  cases phase with
  | decrementing | loaded => rfl
  | ticked | handed | saved | ended => cases hpending

/-! ## Steps of an execution -/

theorem ExecutionPhase.UpToDate.of_le {unsettled fewer : Nat} {stored : Scenario}
    (h : phase.UpToDate unsettled stored) (hle : fewer ≤ unsettled) :
    phase.UpToDate fewer stored := by
  cases phase with
  | ticked => exact ⟨Nat.le_zero.mp (h.1 ▸ hle), h.2⟩
  | handed scenario context => exact ⟨Nat.le_zero.mp (h.1 ▸ hle), h.2⟩
  | decrementing | loaded | saved | ended => trivial

/-- A step that neither emits nor saves the count keeps the executions in turn. -/
theorem InTurn.set {hub' : ScenarioHub} (h : InTurn externalId start times executed r)
    (hphase : r.state.phases[i]? = some phase)
    (hstored : findByExternalId hub'.scenarios externalId =
      findByExternalId r.state.hub.scenarios externalId)
    (hpending : next.isPending = phase.isPending)
    (hunsettled : next.isUnsettled = true → phase.isUnsettled = true)
    (hnext : next.InTurn externalId start times executed)
    (hjobs : ∀ job ∈ hub'.jobs, job.externalId = externalId → jobOf start = some job ∧
      (executed < times ∨ 0 < (r.state.phases.set i next).countP (·.isUnsettled)))
    (hstarted : r.overtaken i = true ∨
      next.UpToDate r.state.unsettled (countedDown start times executed)) :
    InTurn externalId start times executed
      ⟨{ r.state with hub := hub', phases := r.state.phases.set i next }, r.overtaken⟩ := by
  have hpendingCount : (r.state.phases.set i next).countP (·.isPending) = r.state.pending :=
    count_set_same hphase hpending
  have hle : (r.state.phases.set i next).countP (·.isUnsettled) ≤ r.state.unsettled := by
    have hset := count_set (·.isUnsettled) next hphase
    unfold Executions.unsettled
    by_cases hnew : next.isUnsettled = true
    · rw [if_pos hnew, if_pos (hunsettled hnew)] at hset
      exact Nat.le_of_add_le_add_right hset.le
    · rw [if_neg hnew] at hset
      omega
  refine ⟨hstored.trans h.stored, ?_, hle.trans h.unsettled_le, ?_, hjobs, ?_, ?_⟩
  · exact h.emitted.trans (congrArg (executed + ·) hpendingCount.symm)
  · exact (congrArg (executed + ·) hpendingCount).trans_le h.emitted_le
  · intro other hother
    rcases List.mem_or_eq_of_mem_set hother with hmem | rfl
    · exact h.phases other hmem
    · exact hnext
  · intro j other hother
    show r.overtaken j = true ∨ _
    have hget : (r.state.phases.set i next)[j]? = some other := hother
    rw [List.getElem?_set] at hget
    split_ifs at hget with hsame hlt
    · cases hget
      exact hsame ▸ hstarted.imp_right (·.of_le hle)
    · exact (h.started j other hget).imp_right (·.of_le hle)

/-- A step of an execution that is not about to settle, and that leaves the hub as it is. -/
theorem InTurn.move (h : InTurn externalId start times executed r)
    (hphase : r.state.phases[i]? = some phase) (hpending : next.isPending = phase.isPending)
    (hunsettled : next.isUnsettled = phase.isUnsettled)
    (hnext : next.InTurn externalId start times executed)
    (hstarted : r.overtaken i = true ∨
      next.UpToDate r.state.unsettled (countedDown start times executed)) :
    InTurn externalId start times executed
      ⟨{ r.state with phases := r.state.phases.set i next }, r.overtaken⟩ := by
  refine h.set hphase rfl hpending (fun hnew => hunsettled ▸ hnew) hnext ?_ hstarted
  rw [count_set_same hphase hunsettled]
  exact h.jobs

section

variable [ExternalCalls] {devicesAt : Nat → DeviceSchema.DeviceStore}

/-- The record after a step that emits nothing. -/
theorem record_quiet {hub' : ScenarioHub} (h : r.state.phases[i]? = some phase)
    (hproceed : phase.proceed externalId r.state.hub devicesAt = ⟨hub', next, none⟩) :
    r.record (.proceed i devicesAt) (r.state.proceed externalId i devicesAt) =
      ⟨{ r.state with hub := hub', phases := r.state.phases.set i next }, r.overtaken⟩ := by
  have hstate : r.state.proceed externalId i devicesAt =
      { r.state with hub := hub', phases := r.state.phases.set i next } := by
    simp only [Executions.proceed, h, hproceed, Option.toList_none, List.append_nil]
  rw [hstate, RecordedExecutions.record]
  exact congrArg _ (if_pos rfl)

/-- An execution that emits while it is up to date becomes the one that is not settled. -/
theorem InTurn.emit {context : ScenarioExecutionContext}
    (h : InTurn externalId start times executed r) (htimes : times ≤ 2 ^ 53)
    (hphase : r.state.phases[i]? = some (.handed (countedDown start times executed) context))
    (hexecutes : Executes devicesAt (countedDown start times executed) context)
    (hnone : r.state.unsettled = 0)
    (hactive : (countedDown start times executed).active = true) :
    InTurn externalId start times executed
      (r.record (.proceed i devicesAt) (r.state.proceed externalId i devicesAt)) := by
  have hless : executed < times := of_decide_eq_true (Bool.and_eq_true_iff.mp hactive).2
  obtain ⟨payload, hpayload⟩ : ∃ payload,
      repeatTimesPayload (countedDown start times executed) = some payload :=
    ⟨_, repeat_times_payload_counted_down hless htimes⟩
  have hid : (countedDown start times executed).externalId = externalId :=
    (find_by_external_id_iff.mp h.stored).2
  have hpendingNone : r.state.pending = 0 :=
    Nat.le_zero.mp (hnone ▸ pending_le_unsettled r.state)
  have hproceed : r.record (.proceed i devicesAt) (r.state.proceed externalId i devicesAt) =
      ⟨{ r.state with
        phases := r.state.phases.set i (.decrementing (countedDown start times executed) payload)
        emissions := r.state.emissions ++ [requestedUpdates (countedDown start times executed)] },
        fun _ => true⟩ := by
    have hstate : r.state.proceed externalId i devicesAt = { r.state with
        phases := r.state.phases.set i (.decrementing (countedDown start times executed) payload)
        emissions :=
          r.state.emissions ++ [requestedUpdates (countedDown start times executed)] } := by
      simp only [Executions.proceed, hphase, ExecutionPhase.proceed, if_pos hexecutes, hpayload]
      rfl
    rw [hstate, RecordedExecutions.record]
    refine congrArg _ (if_neg ?_)
    rw [List.length_append]
    exact Nat.succ_ne_self _
  rw [hproceed]
  have hcount (p : ExecutionPhase → Bool)
      (hp : p (.handed (countedDown start times executed) context) = false)
      (hnext : p (.decrementing (countedDown start times executed) payload) = true)
      (hbefore : r.state.phases.countP p = 0) :
      (r.state.phases.set i
        (.decrementing (countedDown start times executed) payload)).countP p = 1 := by
    have hset := count_set p (.decrementing (countedDown start times executed) payload) hphase
    rw [hp, hnext, hbefore] at hset
    exact hset
  have hpending := hcount (·.isPending) rfl rfl hpendingNone
  have hunsettled := hcount (·.isUnsettled) rfl rfl hnone
  refine ⟨h.stored, ?_, hunsettled.le, ?_, ?_, ?_, fun _ _ _ => .inl rfl⟩
  · show (r.state.emissions ++ [_]).length = executed + (r.state.phases.set i _).countP _
    rw [List.length_append, h.emitted, hpendingNone, hpending]
    rfl
  · show executed + (r.state.phases.set i _).countP _ ≤ times
    rw [hpending]
    exact hless
  · exact fun job hjob hown => ⟨(h.jobs job hjob hown).1, .inl hless⟩
  · intro other hother
    rcases List.mem_or_eq_of_mem_set hother with hmem | rfl
    · exact h.phases other hmem
    · exact ⟨hid, hpayload⟩

/-- The pending execution saves the count. The others that were started by then are overtaken. -/
theorem InTurn.save {scenario : Scenario} {payload : UpdateScenarioDto}
    (h : InTurn externalId start times executed r) (hvalid : invalidPaths start = [])
    (htimes : times ≤ 2 ^ 53) (hphase : r.state.phases[i]? = some (.loaded payload scenario)) :
    InTurn externalId start times (executed + 1)
      (r.record (.proceed i devicesAt) (r.state.proceed externalId i devicesAt)) := by
  have hmem := List.mem_of_getElem? hphase
  obtain ⟨rfl, hpayload⟩ := h.phases _ hmem
  have hunsettled : r.state.unsettled = 1 :=
    Nat.le_antisymm h.unsettled_le (List.countP_pos_iff.mpr ⟨_, hmem, rfl⟩)
  have hpending : r.state.pending = 1 := by
    refine Nat.le_antisymm (hunsettled ▸ pending_le_unsettled r.state) ?_
    exact List.countP_pos_iff.mpr ⟨_, hmem, rfl⟩
  have hless : executed < times := by
    have hle := h.emitted_le
    omega
  obtain ⟨scenarios, hproceed, hstored⟩ :=
    proceed_loaded devicesAt hvalid hless htimes h.stored hpayload
  rw [record_quiet hphase hproceed]
  let next : ExecutionPhase :=
    .saved (countedDown start times executed) (countedDown start times (executed + 1))
  have hpendingAfter : (r.state.phases.set i next).countP (·.isPending) = 0 := by
    have hset := count_set (·.isPending) next hphase
    rw [show r.state.phases.countP (·.isPending) = 1 from hpending] at hset
    exact Nat.add_right_cancel hset
  have hunsettledAfter : (r.state.phases.set i next).countP (·.isUnsettled) =
      if isCronScenario start then 1 else 0 := by
    have hset := count_set (·.isUnsettled) next hphase
    rw [show r.state.phases.countP (·.isUnsettled) = 1 from hunsettled, Nat.add_comm 1] at hset
    exact Nat.add_right_cancel hset
  refine ⟨hstored, ?_, ?_, ?_, fun job hjob hown => ?_, fun other hother => ?_,
    fun j other hother => ?_⟩
  · show r.state.emissions.length = executed + 1 + (r.state.phases.set i next).countP _
    rw [hpendingAfter, h.emitted, hpending]
  · show (r.state.phases.set i next).countP _ ≤ 1
    rw [hunsettledAfter]
    split
    · exact Nat.le_refl 1
    · exact Nat.zero_le 1
  · show executed + 1 + (r.state.phases.set i next).countP _ ≤ times
    rw [hpendingAfter]
    exact hless
  · -- the job stays until the execution is settled
    obtain ⟨hjobOf, -⟩ := h.jobs job hjob hown
    refine ⟨hjobOf, .inr ?_⟩
    have hcron : isCronScenario start = true :=
      (Bool.and_eq_true_iff.mp (cron_and_active_iff.mpr (by rw [hjobOf]; rfl))).1
    show 0 < (r.state.phases.set i next).countP _
    rw [hunsettledAfter, if_pos hcron]
    exact Nat.one_pos
  · obtain ⟨j, hget⟩ := List.getElem?_of_mem hother
    rw [List.getElem?_set] at hget
    split_ifs at hget with hsame hlt
    · cases hget
      exact ⟨executed, rfl, rfl, fun _ => rfl⟩
    · -- an execution that holds the old count would be a second one that is not settled
      have hother := h.phases other (List.mem_of_getElem? hget)
      have hsettled (hunsettledOther : other.isUnsettled = true) : False :=
        hsame (eq_of_unsettled h.unsettled_le hphase hget rfl hunsettledOther)
      cases other with
      | ticked | handed | ended => trivial
      | decrementing scenario payload => exact (hsettled rfl).elim
      | loaded payload scenario => exact (hsettled rfl).elim
      | saved oldScenario updatedScenario =>
          obtain ⟨before, rfl, rfl, -⟩ := hother
          exact ⟨before, rfl, rfl, fun hcron => (hsettled hcron).elim⟩
  · have hget : (r.state.phases.set i next)[j]? = some other := hother
    rw [List.getElem?_set] at hget
    split_ifs at hget with hsame hlt
    · cases hget
      exact .inr trivial
    · refine (h.started j other hget).imp_right fun hfresh => ?_
      rw [hunsettled] at hfresh
      cases other with
      | ticked => exact absurd hfresh.1 Nat.one_ne_zero
      | handed scenario context => exact absurd hfresh.1 Nat.one_ne_zero
      | decrementing | loaded | saved | ended => trivial

/-- An execution that is through with `updateScenario` leaves the job of the stored scenario. -/
theorem InTurn.settle {oldScenario updatedScenario : Scenario}
    (h : InTurn externalId start times executed r)
    (haccepted : ∀ job, jobOf start = some job → CronAccepted job)
    (hphase : r.state.phases[i]? = some (.saved oldScenario updatedScenario)) :
    InTurn externalId start times executed
      (r.record (.proceed i devicesAt) (r.state.proceed externalId i devicesAt)) := by
  obtain ⟨before, rfl, rfl, hlast⟩ := h.phases _ (List.mem_of_getElem? hphase)
  obtain ⟨hub', hproceed, hscenarios, hjobs⟩ :=
    @proceed_saved start times before _ externalId r.state.hub devicesAt haccepted
  rw [record_quiet hphase hproceed]
  have hended : ExecutionPhase.ended.isUnsettled ≠ true := Bool.false_ne_true
  refine h.set hphase (by rw [hscenarios]) rfl (fun hnew => absurd hnew hended) trivial
    (fun job hjob hown => ?_) (.inr trivial)
  rcases hjobs job hjob with hnew | ⟨hold, hgone⟩
  · obtain ⟨hactive, hcronJob⟩ := job_of_eq_some_iff.mp hnew
    obtain ⟨hstart, hless⟩ := Bool.and_eq_true_iff.mp hactive
    have hcron : isCronScenario start = true :=
      is_cron_scenario_iff.mpr (Option.isSome_of_eq_some hcronJob)
    exact ⟨job_of_eq_some_iff.mpr ⟨hstart, hcronJob⟩,
      .inl (hlast hcron ▸ of_decide_eq_true hless)⟩
  · -- the old job had the name of the scenario, so it was unscheduled
    obtain ⟨hjobOf, -⟩ := h.jobs job hold hown
    obtain ⟨hstart, hcronJob⟩ := job_of_eq_some_iff.mp hjobOf
    have hcron : isCronScenario start = true :=
      is_cron_scenario_iff.mpr (Option.isSome_of_eq_some hcronJob)
    have hless : before < times := by
      have hle := h.emitted_le
      have hexecuted := hlast hcron
      omega
    have hactive : (countedDown start times before).active = true :=
      Bool.and_eq_true_iff.mpr ⟨hstart, decide_eq_true hless⟩
    have hjobBefore : jobOf (countedDown start times before) = some job :=
      job_of_eq_some_iff.mpr ⟨hactive, hcronJob⟩
    exact absurd (job_of_fields hjobOf).1 (hgone (Option.isSome_of_eq_some hjobBefore))

omit [ExternalCalls] in
/-- A new execution is overtaken, or it is up to date. -/
theorem InTurn.begin (h : InTurn externalId start times executed r)
    (hpending : phase.isPending = false) (hunsettled : phase.isUnsettled = false)
    (hholds : phase.InTurn externalId start times executed)
    (hfresh : r.state.unsettled = 0 →
      phase.UpToDate r.state.unsettled (countedDown start times executed)) :
    InTurn externalId start times executed
      ⟨{ r.state with phases := r.state.phases ++ [phase] },
        Function.update r.overtaken r.state.phases.length (0 < r.state.unsettled)⟩ := by
  have hcount (p : ExecutionPhase → Bool) (hp : p phase = false) :
      (r.state.phases ++ [phase]).countP p = r.state.phases.countP p := by
    rw [List.countP_append, List.countP_singleton, hp]
    rfl
  have hpendingSame := hcount (·.isPending) hpending
  have hunsettledSame := hcount (·.isUnsettled) hunsettled
  refine ⟨h.stored, ?_, ?_, ?_, fun job hjob hown => ?_, fun other hother => ?_,
    fun j other hother => ?_⟩
  · exact h.emitted.trans (congrArg (executed + ·) hpendingSame.symm)
  · exact hunsettledSame.trans_le h.unsettled_le
  · exact (congrArg (executed + ·) hpendingSame).trans_le h.emitted_le
  · refine (h.jobs job hjob hown).imp_right (.imp_right fun hpos => ?_)
    exact hpos.trans_eq hunsettledSame.symm
  · rcases List.mem_append.mp hother with hold | hnew
    · exact h.phases other hold
    · rw [List.mem_singleton.mp hnew]
      exact hholds
  · show Function.update r.overtaken r.state.phases.length _ j = true ∨
      other.UpToDate ((r.state.phases ++ [phase]).countP _) _
    rw [hunsettledSame]
    have hget : (r.state.phases ++ [phase])[j]? = some other := hother
    by_cases hj : j = r.state.phases.length
    · subst hj
      rw [List.getElem?_concat_length, Option.some.injEq] at hget
      rw [Function.update_self, decide_eq_true_eq, ← hget]
      rcases Nat.eq_zero_or_pos r.state.unsettled with hnone | hpos
      · exact .inr (hfresh hnone)
      · exact .inl hpos
    · rw [Function.update_of_ne hj]
      refine h.started j other ?_
      rw [List.getElem?_append] at hget
      split_ifs at hget with hlt
      · exact hget
      · rw [List.getElem?_singleton] at hget
        split_ifs at hget with hzero
        omega

/-- A step of an execution keeps the executions in turn, and counts when it saves. -/
theorem InTurn.proceed (h : InTurn externalId start times executed r)
    (hvalid : invalidPaths start = []) (htimes : times ≤ 2 ^ 53)
    (haccepted : ∀ job, jobOf start = some job → CronAccepted job)
    (hturn : EmitsInTurn r (.proceed i devicesAt)) :
    ∃ executed', InTurn externalId start times executed'
      (r.record (.proceed i devicesAt) (r.state.proceed externalId i devicesAt)) := by
  cases hphase : r.state.phases[i]? with
  | none =>
      have hsame : r.state.proceed externalId i devicesAt = r.state := by
        rw [Executions.proceed, hphase]
      have hrecord : r.record (.proceed i devicesAt) r.state = r :=
        congrArg (RecordedExecutions.mk r.state) (if_pos rfl)
      rw [hsame, hrecord]
      exact ⟨executed, h⟩
  | some phase =>
      have hholds := h.phases phase (List.mem_of_getElem? hphase)
      have hstarted := h.started i phase hphase
      cases phase with
      | ticked =>
          have hproceed : ExecutionPhase.ticked.proceed externalId r.state.hub devicesAt =
              ⟨r.state.hub, .handed (countedDown start times executed) { scheduled := some true },
                none⟩ := by
            simp only [ExecutionPhase.proceed, h.stored]
          rw [record_quiet hphase hproceed]
          exact ⟨executed, h.move hphase rfl rfl trivial
            (hstarted.imp_right fun hfresh => ⟨hfresh.1, hfresh.2, rfl⟩)⟩
      | handed scenario context =>
          by_cases hexecutes : Executes devicesAt scenario context
          · have hfresh := hstarted.resolve_left fun hovertaken => by
              rw [hturn scenario context hphase hexecutes] at hovertaken
              cases hovertaken
            obtain ⟨hnone, hactive, rfl⟩ := hfresh
            exact ⟨executed, h.emit htimes hphase hexecutes hnone hactive⟩
          · have hproceed : (ExecutionPhase.handed scenario context).proceed externalId
                r.state.hub devicesAt = ⟨r.state.hub, .ended, none⟩ := if_neg hexecutes
            rw [record_quiet hphase hproceed]
            exact ⟨executed, h.move hphase rfl rfl trivial (.inr trivial)⟩
      | decrementing scenario payload =>
          have hproceed : (ExecutionPhase.decrementing scenario payload).proceed externalId
              r.state.hub devicesAt =
                ⟨r.state.hub, .loaded payload (countedDown start times executed), none⟩ := by
            simp only [ExecutionPhase.proceed, hholds.1, h.stored]
          rw [record_quiet hphase hproceed]
          exact ⟨executed, h.move hphase rfl rfl ⟨rfl, hholds.2⟩ (.inr trivial)⟩
      | loaded payload scenario => exact ⟨executed + 1, h.save hvalid htimes hphase⟩
      | saved oldScenario updatedScenario => exact ⟨executed, h.settle haccepted hphase⟩
      | ended =>
          have hproceed : ExecutionPhase.ended.proceed externalId r.state.hub devicesAt =
              ⟨r.state.hub, .ended, none⟩ := rfl
          rw [record_quiet hphase hproceed]
          exact ⟨executed, h.move hphase rfl rfl trivial (.inr trivial)⟩

/-- Every step by which no overtaken execution emits keeps the executions in turn. -/
theorem InTurn.step {action : ExecutionAction} {t : RecordedExecutions}
    (h : InTurn externalId start times executed r) (hvalid : invalidPaths start = [])
    (htimes : times ≤ 2 ^ 53) (haccepted : ∀ job, jobOf start = some job → CronAccepted job)
    (hturn : EmitsInTurn r action) (hstep : RecordedStep externalId r action t) :
    ∃ executed', InTurn externalId start times executed' t := by
  obtain ⟨hstep⟩ := hstep
  cases hstep with
  | tick htick =>
      refine ⟨executed, h.begin rfl rfl trivial fun hnone => ⟨hnone, ?_⟩⟩
      obtain ⟨job, hjob, hown⟩ := htick
      obtain ⟨hjobOf, hless⟩ := h.jobs job hjob hown
      rw [hnone, or_iff_left (Nat.lt_irrefl 0)] at hless
      exact Bool.and_eq_true_iff.mpr
        ⟨(job_of_eq_some_iff.mp hjobOf).1, decide_eq_true hless⟩
  | @trigger scenario deviceExternalId commands hscenario hid =>
      refine ⟨executed, h.begin rfl rfl trivial fun hnone => ⟨hnone, ?_⟩⟩
      -- the query finds active scenarios only
      obtain ⟨hmem, hactive⟩ := List.mem_filter.mp hscenario
      have hsame : countedDown start times executed = scenario :=
        Option.some.inj (h.stored.symm.trans (find_by_external_id_iff.mpr ⟨hmem, hid⟩))
      rw [hsame]
      exact ⟨(Bool.and_eq_true_iff.mp hactive).1, rfl⟩
  | proceed => exact h.proceed hvalid htimes haccepted hturn
  | elsewhere hsame hjobs =>
      exact ⟨executed, hsame.trans h.stored, h.emitted, h.unsettled_le, h.emitted_le,
        fun job hjob hown => h.jobs job (hjobs job hjob hown) hown, h.phases, h.started⟩

/-- Only an execution whose conditions are met emits. -/
theorem executes_of_emitted {events : List DeviceUpdateRequestedEvent}
    (h : (phase.proceed externalId hub devicesAt).emitted = some events) :
    ∃ scenario context, phase = .handed scenario context ∧
      Executes devicesAt scenario context := by
  cases phase with
  | ticked =>
      simp only [ExecutionPhase.proceed] at h
      split at h <;> cases h
  | handed scenario context =>
      by_cases hexecutes : Executes devicesAt scenario context
      · exact ⟨scenario, context, rfl, hexecutes⟩
      · rw [ExecutionPhase.proceed, if_neg hexecutes] at h
        cases h
  | decrementing scenario payload =>
      simp only [ExecutionPhase.proceed] at h
      split at h <;> cases h
  | loaded payload scenario =>
      simp only [ExecutionPhase.proceed] at h
      split at h <;> cases h
  | saved oldScenario updatedScenario =>
      simp only [ExecutionPhase.proceed] at h
      split at h <;> cases h
  | ended => cases h

/-- An execution that emits and is not overtaken finds the stored scenario active. -/
theorem InTurn.active_of_emission {action : ExecutionAction} {t : Executions}
    (h : InTurn externalId start times executed r) (hturn : EmitsInTurn r action)
    (hstep : ExecutionStep externalId r.state action t)
    (hemits : t.emissions ≠ r.state.emissions) :
    ∃ stored, findByExternalId r.state.hub.scenarios externalId = some stored ∧
      stored.active = true := by
  cases hstep with
  | tick htick => exact absurd rfl hemits
  | trigger hscenario hid => exact absurd rfl hemits
  | elsewhere hsame hjobs => exact absurd rfl hemits
  | @proceed i devicesAt =>
      cases hphase : r.state.phases[i]? with
      | none =>
          simp only [Executions.proceed, hphase] at hemits
          exact absurd rfl hemits
      | some phase =>
          cases hemitted : (phase.proceed externalId r.state.hub devicesAt).emitted with
          | none =>
              simp only [Executions.proceed, hphase, hemitted, Option.toList_none,
                List.append_nil] at hemits
              exact absurd rfl hemits
          | some events =>
              obtain ⟨scenario, context, rfl, hexecutes⟩ := executes_of_emitted hemitted
              have hfresh := (h.started i _ hphase).resolve_left fun hovertaken => by
                rw [hturn scenario context hphase hexecutes] at hovertaken
                cases hovertaken
              exact ⟨_, h.stored, hfresh.2.1⟩

/-- The executions are in turn, for some number of executions that have saved. -/
def RecordedExecutions.AllInTurn (externalId : String) (start : Scenario) (times : Nat)
    (r : RecordedExecutions) : Prop :=
  ∃ executed, InTurn externalId start times executed r

/-- When no overtaken execution of a stored scenario emits, the executions emit at most as often as
it is to be repeated, the stored count goes down by one with each execution that is not pending,
and none of them emits while the stored scenario is inactive. -/
theorem executions_counted_down {hub : ScenarioHub}
    (hstored : findByExternalId hub.scenarios externalId = some start)
    (hvalid : invalidPaths start = [])
    (haccepted : ∀ job, jobOf start = some job → CronAccepted job)
    (hjobs : ∀ job ∈ hub.jobs, job.externalId = externalId → jobOf start = some job)
    (hrepeat : start.repeatTimes = .value (.finite (times : ℚ))) (hpos : 0 < times)
    (htimes : times ≤ 2 ^ 53)
    (hrun : Reaches (RecordedStep externalId) EmitsInTurn { state := { hub := hub } } r) :
    r.state.emissions.length ≤ times ∧
      findByExternalId r.state.hub.scenarios externalId =
        some (countedDown start times (r.state.emissions.length - r.state.pending)) ∧
      ∀ action t, EmitsInTurn r action → ExecutionStep externalId r.state action t →
        t.emissions ≠ r.state.emissions →
          ∃ stored, findByExternalId r.state.hub.scenarios externalId = some stored ∧
            stored.active = true := by
  have hinitial : InTurn externalId start times 0 { state := { hub := hub } } := by
    refine ⟨?_, rfl, Nat.zero_le 1, Nat.zero_le times,
      fun job hjob hown => ⟨hjobs job hjob hown, .inl hpos⟩, fun phase hphase => ?_,
      fun i phase hphase => ?_⟩
    · rw [counted_down_zero hpos hrepeat]
      exact hstored
    · cases hphase
    · cases hphase
  have hall : r.AllInTurn externalId start times := by
    refine hrun.invariant ⟨0, hinitial⟩ fun r action t hcurrent hturn hstep => ?_
    obtain ⟨executed, hcurrent⟩ := hcurrent
    exact hcurrent.step hvalid htimes haccepted hturn hstep
  obtain ⟨executed, hafter⟩ := hall
  have hcount : r.state.emissions.length - r.state.pending = executed := by
    rw [hafter.emitted]
    exact Nat.add_sub_cancel executed r.state.pending
  refine ⟨?_, ?_, fun action t => hafter.active_of_emission⟩
  · rw [hafter.emitted]
    exact hafter.emitted_le
  · rw [hcount]
    exact hafter.stored

end

/-! ## A light for a visitor -/

/-- The external ids of a motion sensor, a lamp and a scenario. -/
def sensorId : String :=
  "8d1f0c3e-7b52-4e6a-a1d4-3c9e5f7b2a60"

def lampId : String :=
  "4b7f3a52-6c1e-4d0a-9f35-2e8d7c6b5a41"

def visitorId : String :=
  "c3a9e8d7-1f42-4b5c-8e60-7d2b9a4f1c35"

/-- The sensor has noticed a motion. -/
def visitorDevices : DeviceSchema.DeviceStore :=
  ⟨[{ externalId := sensorId
      name := .value "Sensor"
      type := .value .motionSensor
      transportProtocol := .value .zigbee
      measurements := .ofAssignments [⟨"motion", .bool true⟩] },
    { externalId := lampId
      name := .value "Lamp"
      type := .value .led
      transportProtocol := .value .http }], by decide +kernel⟩

/-- A scenario that switches the lamp on for a motion, as often as its count says. -/
def visitorScenario (times : Nat) : Scenario where
  externalId := visitorId
  name := "Visitor"
  repeatTimes := .value (.finite (times : ℚ))
  trigger := ⟨[{
    type := .device
    device := {
      externalId := some sensorId
      measurements := some (.ofAssignments [⟨"motion", .bool true⟩]) } }], "1"⟩
  actions := [⟨lampId, { controls := some (.ofAssignments [⟨"on", .bool true⟩]) }⟩]

/-- The hub before the first execution. -/
def visitorHub (times : Nat) : ScenarioHub where
  devices := visitorDevices
  configs := []
  dayTimePoints _ := (6, 0)
  scenarios := ⟨[visitorScenario times], List.pairwise_singleton _ _⟩
  groups := .empty
  jobs := .empty

/-- That many updates of the sensor have found the scenario. -/
def visitorTriggered (times : Nat) : Nat → Executions
  | 0 => { hub := visitorHub times }
  | updates + 1 => { visitorTriggered times updates with
      phases := (visitorTriggered times updates).phases ++ [.handed (visitorScenario times) {}] }

theorem visitor_trigger [ExternalCalls] (times updates : Nat) :
    ExecutionStep visitorId (visitorTriggered times updates) (.trigger sensorId none)
      (visitorTriggered times (updates + 1)) := by
  have hhub : (visitorTriggered times updates).hub = visitorHub times := by
    induction updates with
    | zero => rfl
    | succ updates ih => exact ih
  refine @ExecutionStep.trigger _ _ _ (visitorScenario times) _ _ ?_ rfl
  rw [hhub]
  exact List.mem_cons_self

/-- The first execution emits. -/
def visitorEmitted (times updates : Nat) : Executions :=
  @Executions.proceed .unused visitorId (visitorTriggered times updates) 0 fun _ => visitorDevices

/-- The second execution emits as well, before the first one has saved the count. -/
def visitorOverlapping : Executions :=
  @Executions.proceed .unused visitorId (visitorEmitted 1 2) 1 fun _ => visitorDevices


section Visitor

local instance visitorCalls : ExternalCalls := .unused

/-- An update of the sensor finds the scenario. -/
def visitorTrigger (r : RecordedExecutions) (scenario : Scenario) : RecordedExecutions :=
  r.record (.trigger sensorId none)
    { r.state with phases := r.state.phases ++ [.handed scenario {}] }

/-- The next step of an execution, while there is a motion. -/
def visitorProceed (r : RecordedExecutions) (i : Nat) : RecordedExecutions :=
  r.record (.proceed i fun _ => visitorDevices)
    (r.state.proceed visitorId i fun _ => visitorDevices)

/-- An execution from its trigger to its end. -/
def visitorExecute (r : RecordedExecutions) (scenario : Scenario) : RecordedExecutions :=
  let i := r.state.phases.length
  visitorProceed (visitorProceed (visitorProceed (visitorProceed
    (visitorTrigger r scenario) i) i) i) i

/-- A scenario that is to be repeated twice was executed once, and then once more. -/
def visitorOnce : RecordedExecutions :=
  visitorExecute { state := { hub := visitorHub 2 } } (visitorScenario 2)

def visitorTwice : RecordedExecutions :=
  visitorExecute visitorOnce (countedDown (visitorScenario 2) 2 1)

theorem visitor_trigger_step {r : RecordedExecutions} {scenario : Scenario}
    (hscenario : scenario ∈ getDeviceTriggeredScenarios r.state.hub.scenarios sensorId)
    (hid : scenario.externalId = visitorId) :
    Reaches (RecordedStep visitorId) EmitsInTurn r (visitorTrigger r scenario) :=
  .single ⟨.trigger sensorId none, trivial, .step (.trigger hscenario hid)⟩

/-- The execution is not overtaken, or it is not about to emit. -/
def canProceed (r : RecordedExecutions) (i : Nat) : Bool :=
  match r.state.phases[i]? with
  | some (.handed _ _) => !r.overtaken i
  | _ => true

theorem visitor_proceed_step {r : RecordedExecutions} {i : Nat} (h : canProceed r i = true) :
    Reaches (RecordedStep visitorId) EmitsInTurn r (visitorProceed r i) := by
  refine .single ⟨.proceed i fun _ => visitorDevices, fun scenario context hphase _ => ?_,
    .step .proceed⟩
  unfold canProceed at h
  rw [hphase] at h
  exact Bool.eq_false_of_not_eq_true' h

/-- An execution that starts when the others are settled. -/
theorem visitor_execute_steps {r : RecordedExecutions} {scenario : Scenario}
    (hscenario : scenario ∈ getDeviceTriggeredScenarios r.state.hub.scenarios sensorId)
    (hid : scenario.externalId = visitorId)
    (h : let i := r.state.phases.length
      let triggered := visitorTrigger r scenario
      canProceed triggered i = true ∧ canProceed (visitorProceed triggered i) i = true ∧
        canProceed (visitorProceed (visitorProceed triggered i) i) i = true ∧
        canProceed (visitorProceed (visitorProceed (visitorProceed triggered i) i) i) i = true) :
    Reaches (RecordedStep visitorId) EmitsInTurn r (visitorExecute r scenario) := by
  obtain ⟨hemits, hreads, hsaves, hends⟩ := h
  exact ((((visitor_trigger_step hscenario hid).trans (visitor_proceed_step hemits)).trans
    (visitor_proceed_step hreads)).trans (visitor_proceed_step hsaves)).trans
      (visitor_proceed_step hends)

theorem executions_counted_down_visitor :
    visitorTwice.state.emissions.length = 2 ∧
      findByExternalId visitorTwice.state.hub.scenarios visitorId =
        some (countedDown (visitorScenario 2) 2 2) := by
  have hstored {r : RecordedExecutions} {executed : Nat} (hrun : Reaches (RecordedStep visitorId)
      EmitsInTurn { state := { hub := visitorHub 2 } } r)
      (hcount : r.state.emissions.length - r.state.pending = executed) :
      findByExternalId r.state.hub.scenarios visitorId =
        some (countedDown (visitorScenario 2) 2 executed) := by
    rw [← hcount]
    refine (executions_counted_down rfl (by decide +kernel) (fun job hjob => ?_)
      (fun job hjob => absurd hjob List.not_mem_nil) rfl (by decide) (by decide) hrun).2.1
    cases hjob
  have hfirst : Reaches (RecordedStep visitorId) EmitsInTurn
      { state := { hub := visitorHub 2 } } visitorOnce :=
    visitor_execute_steps List.mem_cons_self rfl (by decide +kernel)
  have honce : findByExternalId visitorOnce.state.hub.scenarios visitorId =
      some (countedDown (visitorScenario 2) 2 1) := hstored hfirst (by decide +kernel)
  have hmem : countedDown (visitorScenario 2) 2 1 ∈
      getDeviceTriggeredScenarios visitorOnce.state.hub.scenarios sensorId :=
    List.mem_filter.mpr ⟨(find_by_external_id_iff.mp honce).1, rfl⟩
  have hsecond := hfirst.trans (visitor_execute_steps hmem rfl (by decide +kernel))
  exact ⟨by decide +kernel, hstored hsecond (by decide +kernel)⟩

end Visitor

/-- Two updates of the sensor find a scenario that is to be executed once, and both executions emit
its actions. -/
theorem overlapping_executions_emit_twice :
    findByExternalId (visitorHub 1).scenarios visitorId = some (visitorScenario 1) ∧
      @invalidPaths .unused (visitorScenario 1) = [] ∧
      Reaches (@ExecutionStep .unused visitorId) anyAction { hub := visitorHub 1 }
        visitorOverlapping ∧
      ¬ visitorOverlapping.emissions.length ≤ 1 := by
  refine ⟨rfl, by decide +kernel, ?_, by decide +kernel⟩
  have hfirst : Reaches (@ExecutionStep .unused visitorId) anyAction { hub := visitorHub 1 }
      (visitorTriggered 1 1) := .single ⟨_, trivial, @visitor_trigger .unused 1 0⟩
  have hsecond := hfirst.tail ⟨_, trivial, @visitor_trigger .unused 1 1⟩
  have hemitted : Reaches (@ExecutionStep .unused visitorId) anyAction { hub := visitorHub 1 }
      (visitorEmitted 1 2) := hsecond.tail ⟨_, trivial, @ExecutionStep.proceed .unused _ _ _ _⟩
  exact hemitted.tail ⟨_, trivial, @ExecutionStep.proceed .unused _ _ _ _⟩

end MyHomeHub.ScenariosExecution
