import MyHomeHub.Scenarios.Groups
import MyHomeHub.Scenarios.Validator

/-!
# The scenarios service

`scenarios.service` and the registry of `scheduler.service`: adding, updating and removing
scenarios, with the cron jobs of the active ones. A job is registered under the name that
its scenario has at that moment.

Each call is a sequence of database and registry operations, and what was done before an
operation rejects stays done. The outcome of a call therefore holds the scenarios, groups
and jobs it leaves next to its result.
-/

namespace MyHomeHub.ScenariosService

open JavaScript Library ScenarioSchema ScenarioGroups ScenariosValidator

/-! ## Requests -/

/-- `CreateScenarioDto`. -/
structure CreateScenarioDto where
  name : String
  description : Optional String := .undefined
  group : Optional String := .undefined
  active : Bool := true
  repeatTimes : Optional Number := .undefined
  trigger : ScenarioTrigger
  actions : List ScenarioAction

/-- `UpdateScenarioDto`. Of all fields but `repeatTimes` null means the same as undefined. -/
structure UpdateScenarioDto where
  name : Option String := none
  description : Option String := none
  group : Option String := none
  active : Option Bool := none
  repeatTimes : Optional Number := .undefined
  trigger : Option ScenarioTrigger := none
  actions : Option (List ScenarioAction) := none

/-! ## The scheduler -/

/-- `SchedulerJob`: a registered job, with the scenario that its handler executes. -/
structure SchedulerJob where
  name : String
  cron : Option String
  externalId : String
  deriving DecidableEq, Repr

/-- The name under which a job is registered. -/
def jobNameKey (job : SchedulerJob) : Option String :=
  some job.name

/-- The `SchedulerRegistry`: no two jobs have the same name. -/
abbrev JobRegistry := Collection SchedulerJob String [jobNameKey]

/-- The hours and minutes of the sunrise and the sunset. -/
abbrev DayTimePoints := ScenarioCronTimeAdjustOption → Nat × Nat

/-- `updateCronTime` -/
def updateCronTime (cron : String) (timePoint : Nat × Nat) : String :=
  let cronParts := (cron.toList.splitOn ' ').map String.ofList
  let cronParts := if cronParts.length = 6 then cronParts.drop 1 else cronParts
  " ".intercalate (timePoint.2.repr :: timePoint.1.repr :: cronParts.drop 2)

/-- The trigger sources after the adjustment of the first one of type cron. -/
def adjustSources (timePoints : DayTimePoints) :
    List ScenarioTriggerSource → Except HubError (List ScenarioTriggerSource)
  | [] => .ok []
  | source :: sources =>
      match source.type, source.adjustTo, source.cron with
      | .device, _, _ => do
          let sources ← adjustSources timePoints sources
          return source :: sources
      | .cron, none, _ => .ok (source :: sources)
      | .cron, some _, none => .error .typeError
      | .cron, some adjustTo, some cron =>
          .ok ({ source with cron := some (updateCronTime cron (timePoints adjustTo)) } :: sources)

/-- `unscheduleJob` -/
def unscheduleJob (jobs : JobRegistry) (jobName : String) : Except HubError JobRegistry :=
  if jobs.docs.any fun job => job.name = jobName then
    .ok (jobs.filter fun job => job.name ≠ jobName)
  else .error (.thrown s!"No Cron Job was found with the given name ({jobName}).")

/-- `findScenarioCronSource` -/
def findScenarioCronSource (scenario : Scenario) : Option ScenarioTriggerSource :=
  scenario.trigger.sources.find? fun source => source.type = .cron

/-- `isCronScenario` -/
def isCronScenario (scenario : Scenario) : Bool :=
  scenario.trigger.sources.any fun source => source.type = .cron

/-! ## The service -/

/-- What the scenarios service works on. -/
structure ScenarioHub where
  devices : DeviceSchema.DeviceStore
  configs : List DeviceConfig
  dayTimePoints : DayTimePoints
  scenarios : ScenarioStore
  groups : GroupStore
  jobs : JobRegistry

/-- The scenarios, groups and jobs after a call, and what it returned. -/
structure ScenarioOutcome where
  scenarios : ScenarioStore
  groups : GroupStore
  jobs : JobRegistry
  result : Except HubError Scenario

/-- The hub with the scenarios, groups and jobs that a call leaves. -/
def ScenarioHub.after (hub : ScenarioHub) (outcome : ScenarioOutcome) : ScenarioHub :=
  { hub with scenarios := outcome.scenarios, groups := outcome.groups, jobs := outcome.jobs }

/-- A call that changes nothing. -/
def reject (hub : ScenarioHub) (error : HubError) : ScenarioOutcome :=
  ⟨hub.scenarios, hub.groups, hub.jobs, .error error⟩

/-- `getScenario` of the strict lookups. -/
def scenarioNotFound : HubError :=
  .notFound "There is no scenario matching these criteria"

/-- `new this.scenarioModel(scenarioDto)` with an adjusted trigger. -/
def newScenario (externalId : String) (scenarioDto : CreateScenarioDto)
    (sources : List ScenarioTriggerSource) : Scenario where
  externalId := externalId
  name := trim scenarioDto.name
  description := castText scenarioDto.description
  group := castText scenarioDto.group
  active := scenarioDto.active
  repeatTimes := scenarioDto.repeatTimes
  trigger := castTrigger { scenarioDto.trigger with sources := sources }
  actions := scenarioDto.actions

/-- The document of `updateScenario` with the values of the request. -/
def assignScenario (scenario : Scenario) (scenarioDto : UpdateScenarioDto) : Scenario :=
  { scenario with
    name := (scenarioDto.name.map trim).getD scenario.name
    description := (scenarioDto.description.map fun s => .value (trim s)).getD scenario.description
    group := (scenarioDto.group.map fun s => .value (trim s)).getD scenario.group
    active := scenarioDto.active.getD scenario.active
    repeatTimes := match scenarioDto.repeatTimes with
      | .value n => if (Value.number n).truthy then .value n else scenario.repeatTimes
      | .null => .null
      | .undefined => scenario.repeatTimes
    trigger := (scenarioDto.trigger.map castTrigger).getD scenario.trigger
    actions := scenarioDto.actions.getD scenario.actions }

/-- The document of `updateScenario` before it is saved: a new trigger is adjusted. -/
def prepareScenario (timePoints : DayTimePoints) (scenario : Scenario)
    (scenarioDto : UpdateScenarioDto) : Except HubError Scenario :=
  let assigned := assignScenario scenario scenarioDto
  if scenarioDto.trigger.isSome then do
    let sources ← adjustSources timePoints assigned.trigger.sources
    return { assigned with
      trigger := castTrigger { assigned.trigger with sources := sources } }
  else .ok assigned

/-- The nested fields that a request replaces. -/
def replacedFields (scenarioDto : UpdateScenarioDto) : ReplacedFields :=
  ⟨scenarioDto.trigger.isSome, scenarioDto.actions.isSome⟩

/-- `findByIdAndUpdate` with the old document: a field that it does not have keeps its new value. -/
def restoreFields (oldScenario stored : Scenario) : Scenario :=
  { oldScenario with
    externalId := stored.externalId
    description :=
      if oldScenario.description = .undefined then stored.description else oldScenario.description
    group := if oldScenario.group = .undefined then stored.group else oldScenario.group
    repeatTimes :=
      if oldScenario.repeatTimes = .undefined then stored.repeatTimes
      else oldScenario.repeatTimes }

/-- The stored scenarios after the old document was written back. -/
def restoreScenario (scenarios : ScenarioStore) (oldScenario : Scenario) :
    Except HubError ScenarioStore :=
  match scenarios.updateFirst
      (fun stored => externalIdKey stored = some oldScenario.externalId)
      (restoreFields oldScenario) with
  | .ok scenarios => .ok scenarios
  | .error .noDocument => .ok scenarios
  | .error .duplicateKey => .error .duplicateKey

variable [ExternalCalls]

/-- `scheduleJob`: the cron expression has to be accepted and the name has to be free. -/
def scheduleJob (jobs : JobRegistry) (job : SchedulerJob) : Except HubError JobRegistry :=
  if (job.cron.map ExternalCalls.cronJobAccepts).getD false then
    match jobs.insert? job with
    | some jobs => .ok jobs
    | none => .error (.thrown s!"Cron Job with the given name ({job.name}) already exists.")
  else .error (.thrown "The cron expression is not valid")

/-- `scheduleScenarioJob` up to its failure handler, which the caller runs. -/
def scheduleScenarioJob (jobs : JobRegistry) (scenario : Scenario) :
    Except HubError JobRegistry :=
  match findScenarioCronSource scenario with
  | none => .ok jobs
  | some cronTriggerSource =>
      match scheduleJob jobs ⟨scenario.name, cronTriggerSource.cron, scenario.externalId⟩ with
      | .ok jobs => .ok jobs
      | .error error =>
          let cron := cronTriggerSource.cron.getD "undefined"
          let text := match error with
            | .thrown message => message
            | _ => ""
          .error (.internalServerError
            s!"Failed to schedule a scenario on \"{cron}: {text}\"")

/-- `removeScenario` -/
def removeScenario (hub : ScenarioHub) (externalId : String) : ScenarioOutcome :=
  match findByExternalId hub.scenarios externalId with
  | none => reject hub scenarioNotFound
  | some scenario =>
      let scenarios := hub.scenarios.filter fun other => other.externalId ≠ externalId
      -- the document is gone before the group and the job follow
      let synced := syncGroupOnDelete hub.groups scenario.group
      match synced.result with
      | .error error => ⟨scenarios, synced.groups, hub.jobs, .error error⟩
      | .ok () =>
          if scenario.active then
            match unscheduleJob hub.jobs scenario.name with
            | .ok jobs => ⟨scenarios, synced.groups, jobs, .ok scenario⟩
            | .error error => ⟨scenarios, synced.groups, hub.jobs, .error error⟩
          else ⟨scenarios, synced.groups, hub.jobs, .ok scenario⟩

/-- `addScenario` from the point where the new scenario is saved. -/
def scheduleNewScenario (hub : ScenarioHub) (scenarios : ScenarioStore) (newScenario : Scenario) :
    ScenarioOutcome :=
  let synced := syncGroupOnCreate hub.groups newScenario.group
  match synced.result with
  | .error error => ⟨scenarios, synced.groups, hub.jobs, .error error⟩
  | .ok () =>
      if newScenario.active then
        match scheduleScenarioJob hub.jobs newScenario with
        | .ok jobs => ⟨scenarios, synced.groups, jobs, .ok newScenario⟩
        | .error error =>
            -- the failure handler; its own error replaces the one of the scheduler
            let removed := removeScenario
              { hub with scenarios := scenarios, groups := synced.groups } newScenario.externalId
            { removed with
              result := match removed.result with
                | .error removeError => .error removeError
                | .ok _ => .error error }
      else ⟨scenarios, synced.groups, hub.jobs, .ok newScenario⟩

/-- `addScenario`. The schema generates the external id. -/
def addScenario (hub : ScenarioHub) (externalId : String) (scenarioDto : CreateScenarioDto) :
    ScenarioOutcome :=
  if hub.scenarios.docs.any fun scenario => scenario.name = trim scenarioDto.name then
    reject hub (.fieldValidation
      s!"Scenario with the same name ('{scenarioDto.name}') already exists" "name")
  else
    let saved := do
      validateScenario hub.configs hub.devices (some scenarioDto.trigger)
        (some scenarioDto.actions)
      let sources ← adjustSources hub.dayTimePoints scenarioDto.trigger.sources
      let scenario := newScenario externalId scenarioDto sources
      let scenarios ← saveNew hub.scenarios scenario
      return (scenario, scenarios)
    match saved with
    | .error error => reject hub error
    | .ok (scenario, scenarios) => scheduleNewScenario hub scenarios scenario

/-- `updateScenario` from the point where the scenario and the groups are saved. -/
def rescheduleScenario (scenarios : ScenarioStore) (groups : GroupStore) (jobs : JobRegistry)
    (oldScenario updatedScenario : Scenario) : ScenarioOutcome :=
  let unscheduled :=
    if isCronScenario oldScenario && oldScenario.active then
      unscheduleJob jobs oldScenario.name
    else .ok jobs
  match unscheduled with
  | .error error => ⟨scenarios, groups, jobs, .error error⟩
  | .ok jobs =>
      if isCronScenario updatedScenario && updatedScenario.active then
        match scheduleScenarioJob jobs updatedScenario with
        | .ok jobs => ⟨scenarios, groups, jobs, .ok updatedScenario⟩
        | .error error =>
            match restoreScenario scenarios oldScenario with
            | .error restoreError => ⟨scenarios, groups, jobs, .error restoreError⟩
            | .ok scenarios =>
                match scheduleScenarioJob jobs oldScenario with
                | .ok jobs => ⟨scenarios, groups, jobs, .error error⟩
                | .error scheduleError => ⟨scenarios, groups, jobs, .error scheduleError⟩
      else ⟨scenarios, groups, jobs, .ok updatedScenario⟩

/-- `updateScenario` -/
def updateScenario (hub : ScenarioHub) (externalId : String) (scenarioDto : UpdateScenarioDto) :
    ScenarioOutcome :=
  match findByExternalId hub.scenarios externalId with
  | none => reject hub scenarioNotFound
  | some scenario =>
      let saved := do
        validateScenario hub.configs hub.devices scenarioDto.trigger scenarioDto.actions
        let updated ← prepareScenario hub.dayTimePoints scenario scenarioDto
        let scenarios ← save hub.scenarios (replacedFields scenarioDto) scenario updated
        return (updated, scenarios)
      match saved with
      | .error error => reject hub error
      | .ok (updated, scenarios) =>
          let synced := syncGroupOnUpdate hub.groups scenario.group updated.group
          match synced.result with
          | .error error => ⟨scenarios, synced.groups, hub.jobs, .error error⟩
          | .ok () => rescheduleScenario scenarios synced.groups hub.jobs scenario updated

/-- `scheduleExistingScenarios`: the registry after startup, if startup succeeds. -/
def scheduleExistingScenarios (scenarios : ScenarioStore) : Except HubError JobRegistry :=
  (scenarios.docs.filter (·.active)).foldlM scheduleScenarioJob .empty

/-! ## What an update stores -/

section

variable {scenario updated : Scenario} {timePoints : DayTimePoints}
  {scenarioDto : UpdateScenarioDto}

omit [ExternalCalls] in
/-- A request keeps the external id and the nested fields that it does not have. -/
theorem prepare_scenario_ok (h : prepareScenario timePoints scenario scenarioDto = .ok updated) :
    updated.externalId = scenario.externalId ∧
      (scenarioDto.trigger.isSome = false → updated.trigger = scenario.trigger) ∧
      (scenarioDto.actions.isSome = false → updated.actions = scenario.actions) := by
  have hactions : scenarioDto.actions.isSome = false →
      (assignScenario scenario scenarioDto).actions = scenario.actions := by
    intro hnone
    rw [Option.isSome_eq_false_iff, Option.isNone_iff_eq_none] at hnone
    rw [assignScenario, hnone, Option.getD_none]
  unfold prepareScenario at h
  dsimp only at h
  split at h
  · rename_i htrigger
    obtain ⟨sources, -, hprepared⟩ := bind_ok_iff.mp h
    cases hprepared
    exact ⟨rfl, fun hnone => absurd htrigger (by rw [hnone]; exact nofun), hactions⟩
  · rename_i htrigger
    cases h
    refine ⟨rfl, fun _ => ?_, hactions⟩
    rw [Bool.not_eq_true, Option.isSome_eq_false_iff, Option.isNone_iff_eq_none] at htrigger
    rw [assignScenario, htrigger, Option.map_none, Option.getD_none]

omit [ExternalCalls] in
/-- When nothing else has written the scenario, the save stores it as it is in memory. -/
theorem write_modified_prepared
    (h : prepareScenario timePoints scenario scenarioDto = .ok updated) :
    writeModified (replacedFields scenarioDto) scenario updated scenario = updated := by
  obtain ⟨hid, htrigger, hactions⟩ := prepare_scenario_ok h
  have hkept {α : Type} {replaced : Bool} {new old : α} (hold : replaced = false → new = old) :
      (if replaced then new else old) = new := by
    cases replaced with
    | false => exact (hold rfl).symm
    | true => rfl
  have htriggerWritten : (if (replacedFields scenarioDto).trigger then updated.trigger
      else scenario.trigger) = updated.trigger := hkept htrigger
  have hactionsWritten : (if (replacedFields scenarioDto).actions then updated.actions
      else scenario.actions) = updated.actions := hkept hactions
  simp only [writeModified, written_field_same]
  rw [htriggerWritten, hactionsWritten, ← hid]

end

end MyHomeHub.ScenariosService
