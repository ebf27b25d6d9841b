import MyHomeHub.Scenarios.Execution
import MyHomeHub.Scenarios.JobRegistry

/-!
# Counting the executions of a scenario

A scenario with `repeatTimes` counts its executions down and is deactivated by the last one.
Several executions of it can be under way at once: a cron tick, a device update or an
executed command starts one at any time, and between two awaits of one execution the others
take steps. Here an execution is the point it has reached together with the documents that
it holds, and a step of the system is one of an execution, or a change elsewhere in the hub.

The count is read from the document that an execution was handed. An execution of the stored
document asks for one less than is stored, and what it asks for is saved.
-/

namespace MyHomeHub.ScenariosExecution

open JavaScript Library DevicesService ScenarioSchema ScenarioGroups ScenariosService
  ScenariosValidator

/-! ## Executions -/

/-- The points of an execution at which other executions may take steps. -/
inductive ExecutionPhase where
  /-- The job has fired, and its handler has not read the scenario yet. -/
  | ticked
  /-- The scenario is found, and `execute` was called for it. -/
  | handed (scenario : Scenario) (context : ScenarioExecutionContext)
  /-- The actions are emitted, and `updateScenario` was called with the new count. -/
  | decrementing (scenario : Scenario) (payload : UpdateScenarioDto)
  /-- `updateScenario` has read the scenario. -/
  | loaded (payload : UpdateScenarioDto) (scenario : Scenario)
  /-- `updateScenario` has saved the scenario. -/
  | saved (oldScenario updatedScenario : Scenario)
  | ended

/-- The actions are emitted, and the new count is not saved yet. -/
def ExecutionPhase.isPending : ExecutionPhase → Bool
  | .decrementing _ _ | .loaded _ _ => true
  | _ => false

/-- The actions are emitted, and `updateScenario` is not through with the scenario: the new count is
not saved yet, or its job is not scheduled anew. -/
def ExecutionPhase.isUnsettled : ExecutionPhase → Bool
  | .decrementing _ _ | .loaded _ _ => true
  | .saved oldScenario _ => isCronScenario oldScenario
  | _ => false

/-- The hub, the executions of one scenario, and what each execution that went on to the actions
has emitted. -/
structure Executions where
  hub : ScenarioHub
  phases : List ExecutionPhase := []
  emissions : List (List DeviceUpdateRequestedEvent) := []

/-- The number of executions that have emitted their actions and not yet saved the count. -/
def Executions.pending (s : Executions) : Nat :=
  s.phases.countP (·.isPending)

/-- The number of executions that have emitted their actions and are not settled. -/
def Executions.unsettled (s : Executions) : Nat :=
  s.phases.countP (·.isUnsettled)

/-- The hub and the execution after a step, and what the step emitted. -/
structure Proceeded where
  hub : ScenarioHub
  phase : ExecutionPhase
  emitted : Option (List DeviceUpdateRequestedEvent) := none

section

variable [ExternalCalls]

/-- The next step of an execution. What is thrown is logged, and the execution ends. -/
def ExecutionPhase.proceed (externalId : String) (hub : ScenarioHub)
    (devicesAt : Nat → DeviceSchema.DeviceStore) : ExecutionPhase → Proceeded
  | .ticked =>
      match findByExternalId hub.scenarios externalId with
      | none => ⟨hub, .ended, none⟩
      | some scenario => ⟨hub, .handed scenario { scheduled := some true }, none⟩
  | .handed scenario context =>
      if Executes devicesAt scenario context then
        match repeatTimesPayload scenario with
        | none => ⟨hub, .ended, some (requestedUpdates scenario)⟩
        | some payload =>
            ⟨hub, .decrementing scenario payload, some (requestedUpdates scenario)⟩
      else ⟨hub, .ended, none⟩
  | .decrementing scenario payload =>
      match findByExternalId hub.scenarios scenario.externalId with
      | none => ⟨hub, .ended, none⟩
      | some scenario => ⟨hub, .loaded payload scenario, none⟩
  | .loaded payload scenario =>
      let saved := do
        validateScenario hub.configs hub.devices payload.trigger payload.actions
        let updated ← prepareScenario hub.dayTimePoints scenario payload
        let scenarios ← save hub.scenarios (replacedFields payload) scenario updated
        return (updated, scenarios)
      match saved with
      | .error _ => ⟨hub, .ended, none⟩
      | .ok (updated, scenarios) =>
          ⟨{ hub with scenarios := scenarios }, .saved scenario updated, none⟩
  | .saved oldScenario updatedScenario =>
      let synced := syncGroupOnUpdate hub.groups oldScenario.group updatedScenario.group
      match synced.result with
      | .error _ => ⟨{ hub with groups := synced.groups }, .ended, none⟩
      | .ok () =>
          ⟨hub.after (rescheduleScenario hub.scenarios synced.groups hub.jobs oldScenario
            updatedScenario), .ended, none⟩
  | .ended => ⟨hub, .ended, none⟩

/-- Without a step of another execution in between, the count is written by `updateScenario`. -/
theorem update_scenario_of_steps (externalId : String) (hub : ScenarioHub)
    (devicesAt : Nat → DeviceSchema.DeviceStore) (scenario : Scenario)
    (payload : UpdateScenarioDto) :
    let loaded := (ExecutionPhase.decrementing scenario payload).proceed externalId hub devicesAt
    let saved := loaded.phase.proceed externalId loaded.hub devicesAt
    (saved.phase.proceed externalId saved.hub devicesAt).hub =
      hub.after (updateScenario hub scenario.externalId payload) := by
  unfold updateScenario
  cases hfind : findByExternalId hub.scenarios scenario.externalId with
  | none => simp only [ExecutionPhase.proceed, hfind]; rfl
  | some stored =>
      simp only [ExecutionPhase.proceed, hfind]
      cases hsaved : (do
          validateScenario hub.configs hub.devices payload.trigger payload.actions
          let updated ← prepareScenario hub.dayTimePoints stored payload
          let scenarios ← save hub.scenarios (replacedFields payload) stored updated
          return (updated, scenarios)) with
      | error error => rfl
      | ok saved =>
          cases hsynced :
            (syncGroupOnUpdate hub.groups stored.group saved.1.group).result with
          | error error =>
              simp only [hsynced]
              rfl
          | ok =>
              simp only [hsynced]
              rfl

/-- What happens next. -/
inductive ExecutionAction where
  /-- The job of the scenario fires. -/
  | tick
  /-- A device update or an executed command finds the scenario. -/
  | trigger (deviceExternalId : String) (commands : Option DevicePayload)
  /-- An execution takes its next step, and reads devices if it evaluates the trigger. -/
  | proceed (i : Nat) (devicesAt : Nat → DeviceSchema.DeviceStore)
  /-- Anything else in the hub changes. -/
  | elsewhere (hub : ScenarioHub)

/-- The state after the next step of an execution. -/
def Executions.proceed (externalId : String) (s : Executions) (i : Nat)
    (devicesAt : Nat → DeviceSchema.DeviceStore) : Executions :=
  match s.phases[i]? with
  | none => s
  | some phase =>
      let proceeded := phase.proceed externalId s.hub devicesAt
      { hub := proceeded.hub
        phases := s.phases.set i proceeded.phase
        emissions := s.emissions ++ proceeded.emitted.toList }

/-- The steps of the system. Nothing but its executions edits the scenario or schedules its job. -/
inductive ExecutionStep (externalId : String) (s : Executions) :
    ExecutionAction → Executions → Prop
  | tick (h : ∃ job ∈ s.hub.jobs, job.externalId = externalId) :
      ExecutionStep externalId s .tick { s with phases := s.phases ++ [.ticked] }
  | trigger {scenario : Scenario} {deviceExternalId : String} {commands : Option DevicePayload}
      (h : scenario ∈ getDeviceTriggeredScenarios s.hub.scenarios deviceExternalId)
      (hid : scenario.externalId = externalId) :
      ExecutionStep externalId s (.trigger deviceExternalId commands)
        { s with phases := s.phases ++ [.handed scenario { commands := commands }] }
  | proceed {i : Nat} {devicesAt : Nat → DeviceSchema.DeviceStore} :
      ExecutionStep externalId s (.proceed i devicesAt) (s.proceed externalId i devicesAt)
  | elsewhere {hub : ScenarioHub}
      (h : findByExternalId hub.scenarios externalId =
        findByExternalId s.hub.scenarios externalId)
      (hjobs : ∀ job ∈ hub.jobs, job.externalId = externalId → job ∈ s.hub.jobs) :
      ExecutionStep externalId s (.elsewhere hub) { s with hub := hub }

end

/-! ## The stored count -/

/-- The scenario after some of its executions. -/
def countedDown (start : Scenario) (times executed : Nat) : Scenario :=
  { start with
    active := start.active && executed < times
    repeatTimes := if executed < times then .value (.finite ((times - executed : ℕ) : ℚ))
      else .null }

variable {start : Scenario} {times executed : Nat}

theorem counted_down_zero (hpos : 0 < times)
    (h : start.repeatTimes = .value (.finite (times : ℚ))) : countedDown start times 0 = start := by
  rw [countedDown, if_pos hpos, decide_eq_true hpos, Bool.and_true, Nat.sub_zero, ← h]

/-- The count that an execution of the counted scenario asks for. -/
theorem repeat_times_payload_counted_down (hless : executed < times) (htimes : times ≤ 2 ^ 53) :
    repeatTimesPayload (countedDown start times executed) =
      some (if executed + 1 < times then
        { repeatTimes := .value (.finite ((times - (executed + 1) : ℕ) : ℚ)) }
      else { active := some false, repeatTimes := .null }) := by
  have hsub : (Number.finite ((times - executed : ℕ) : ℚ)).sub (.finite 1) =
      .finite ((times - (executed + 1) : ℕ) : ℚ) := by
    have hsucc : times - executed = times - (executed + 1) + 1 := by omega
    rw [hsucc]
    exact Number.sub_one (by omega)
  have hinteger : (Number.finite ((times - executed : ℕ) : ℚ)).isInteger = true := by
    simp [Number.isInteger]
  have hrepeat : (countedDown start times executed).repeatTimes =
      .value (.finite ((times - executed : ℕ) : ℚ)) := if_pos hless
  simp only [repeatTimesPayload, hrepeat, hsub, hinteger, if_true]
  by_cases hlast : executed + 1 < times
  · have hpositive : Number.finite ((times - (executed + 1) : ℕ) : ℚ) ≠ .finite 0 := by
      intro hzero
      rw [Number.finite.injEq, Nat.cast_eq_zero] at hzero
      omega
    rw [if_neg hpositive, if_pos hlast]
  · have hzero : times - (executed + 1) = 0 := by omega
    rw [if_neg hlast, hzero]
    rfl

/-- The scenario with that count is the one after one more execution. -/
theorem assign_counted_down {payload : UpdateScenarioDto} (hless : executed < times)
    (htimes : times ≤ 2 ^ 53)
    (h : repeatTimesPayload (countedDown start times executed) = some payload) :
    assignScenario (countedDown start times executed) payload =
      countedDown start times (executed + 1) := by
  rw [repeat_times_payload_counted_down hless htimes, Option.some.injEq] at h
  subst h
  -- the last execution sends null instead of zero, which would leave the count as it is
  by_cases hlast : executed + 1 < times
  · have htruthy : (Value.number (.finite ((times - (executed + 1) : ℕ) : ℚ))).truthy = true := by
      have hne : ((times - (executed + 1) : ℕ) : ℚ) ≠ 0 := Nat.cast_ne_zero.mpr (by omega)
      simpa [Value.truthy] using hne
    rw [if_pos hlast]
    simp only [assignScenario, countedDown, htruthy, if_true, if_pos hlast, decide_eq_true hless,
      decide_eq_true hlast]
    rfl
  · rw [if_neg hlast]
    simp only [assignScenario, countedDown, if_neg hlast, decide_eq_false hlast, Bool.and_false]
    rfl

section

variable [ExternalCalls] {externalId : String} {hub : ScenarioHub}
  {devicesAt : Nat → DeviceSchema.DeviceStore} {payload : UpdateScenarioDto}

/-- The step that saves the count stores the scenario after one more execution. -/
theorem proceed_loaded (devicesAt : Nat → DeviceSchema.DeviceStore)
    (hvalid : invalidPaths start = []) (hless : executed < times) (htimes : times ≤ 2 ^ 53)
    (hstored : findByExternalId hub.scenarios externalId = some (countedDown start times executed))
    (hpayload : repeatTimesPayload (countedDown start times executed) = some payload) :
    ∃ scenarios, (ExecutionPhase.loaded payload (countedDown start times executed)).proceed
        externalId hub devicesAt = ⟨{ hub with scenarios := scenarios },
          .saved (countedDown start times executed) (countedDown start times (executed + 1)),
          none⟩ ∧
      findByExternalId scenarios externalId = some (countedDown start times (executed + 1)) := by
  have htrigger : payload.trigger = none ∧ payload.actions = none := by
    rw [repeat_times_payload_counted_down hless htimes, Option.some.injEq] at hpayload
    rw [← hpayload]
    split <;> exact ⟨rfl, rfl⟩
  have hvalidated : validateScenario hub.configs hub.devices payload.trigger payload.actions =
      .ok () := by
    rw [htrigger.1, htrigger.2]
    rfl
  have hprepared : prepareScenario hub.dayTimePoints (countedDown start times executed) payload =
      .ok (countedDown start times (executed + 1)) := by
    rw [prepareScenario, htrigger.1, assign_counted_down hless htimes hpayload]
    rfl
  -- the name stays, so the save cannot fail on another scenario
  obtain ⟨hmem, hid⟩ := find_by_external_id_iff.mp hstored
  rw [← hid] at hstored
  obtain ⟨scenarios, hsaved⟩ : ∃ scenarios, save hub.scenarios (replacedFields payload)
      (countedDown start times executed) (countedDown start times (executed + 1)) =
        .ok scenarios := save_unrenamed_ok hstored hvalid rfl
  refine ⟨scenarios, ?_, ?_⟩
  · simp only [ExecutionPhase.proceed, hvalidated, hprepared, hsaved, ok_bind]
    rfl
  · have hafter := (save_over_stored hstored hsaved).2 (countedDown start times (executed + 1))
    rw [write_modified_prepared hprepared] at hafter
    exact find_by_external_id_iff.mpr ⟨hafter.mpr (.inl rfl), hid⟩

/-- The step after it unschedules and schedules, and it does not write the scenario back. -/
theorem proceed_saved (devicesAt : Nat → DeviceSchema.DeviceStore)
    (haccepted : ∀ job, jobOf start = some job → CronAccepted job) :
    ∃ hub', (ExecutionPhase.saved (countedDown start times executed)
        (countedDown start times (executed + 1))).proceed externalId hub devicesAt =
          ⟨hub', .ended, none⟩ ∧ hub'.scenarios = hub.scenarios ∧
      ∀ job ∈ hub'.jobs, jobOf (countedDown start times (executed + 1)) = some job ∨
        (job ∈ hub.jobs ∧
          ((jobOf (countedDown start times executed)).isSome → job.name ≠ start.name)) := by
  have hjobs : ∀ job, jobOf (countedDown start times (executed + 1)) = some job →
      CronAccepted job := by
    intro job hjob
    obtain ⟨hactive, hcron⟩ := job_of_eq_some_iff.mp hjob
    exact haccepted job (job_of_eq_some_iff.mpr ⟨(Bool.and_eq_true_iff.mp hactive).1, hcron⟩)
  have hactive : (countedDown start times (executed + 1)).active = true →
      (countedDown start times executed).active = true := by
    simp only [countedDown, Bool.and_eq_true, decide_eq_true_eq]
    exact fun ⟨hstart, hless⟩ => ⟨hstart, by omega⟩
  refine ⟨hub.after (rescheduleScenario hub.scenarios hub.groups hub.jobs
    (countedDown start times executed) (countedDown start times (executed + 1))), ?_,
    reschedule_unrenamed rfl rfl hactive hjobs⟩
  have hgroups : syncGroupOnUpdate hub.groups (countedDown start times executed).group
      (countedDown start times (executed + 1)).group = ⟨hub.groups, .ok ()⟩ := if_pos rfl
  simp only [ExecutionPhase.proceed, hgroups]

end

end MyHomeHub.ScenariosExecution
