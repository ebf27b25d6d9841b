import MyHomeHub.Conditions.Evaluator
import MyHomeHub.Devices.Service
import MyHomeHub.Scenarios.Service

/-!
# The execution of scenarios

`scenarios-execution.service` and the device conditions of `conditions-evaluator.service`:
when a scenario is executed, which device updates it requests, and how it counts its
executions. An execution works on the document that it was handed, and the devices are read
one after the other, so each trigger source sees the devices as they are at its own time.
-/

namespace MyHomeHub.ScenariosExecution

open JavaScript DevicesService ScenarioSchema ScenariosService

/-- `ScenarioExecutionContext`. -/
structure ScenarioExecutionContext where
  scheduled : Option Bool := none
  commands : Option DevicePayload := none

/-! ## Conditions -/

/-- `meetsConditions` -/
def meetsConditions (conditions payload : Option DevicePayload) : Bool :=
  match conditions, payload with
  | none, _ => true
  | some _, none => false
  | some conditions, some payload =>
      conditions.entries.all fun condition =>
        ((payload.lookup condition.1).getD .undefined).strictEq condition.2

/-- `deviceConditionIsMet` -/
def deviceConditionIsMet (triggerSource : ScenarioTriggerSource) (device : Device)
    (commands : Option DevicePayload) : Bool :=
  meetsConditions triggerSource.device.controls (some device.controls) &&
    meetsConditions triggerSource.device.measurements (some device.measurements) &&
      meetsConditions triggerSource.device.commands commands

/-- `extractConditions` from an index on, where the devices are read at the time of each index. -/
def extractConditions (devicesAt : Nat → DeviceSchema.DeviceStore)
    (context : ScenarioExecutionContext) :
    Nat → List ScenarioTriggerSource → Except HubError (List Bool)
  | _, [] => .ok []
  | index, source :: sources => do
      let condition ←
        match source.type with
        | .cron => .ok (context.scheduled.getD false)
        | .device =>
            match source.device.externalId.bind
                (DeviceSchema.findByExternalId (devicesAt index)) with
            | none => .error deviceNotFound
            | some device => .ok (deviceConditionIsMet source device context.commands)
      let conditions ← extractConditions devicesAt context (index + 1) sources
      return condition :: conditions

/-- `shouldExecuteScenario` of `execute`. -/
def shouldExecuteScenario (devicesAt : Nat → DeviceSchema.DeviceStore) (scenario : Scenario)
    (context : ScenarioExecutionContext) : Except HubError (Option Bool) := do
  let conditions ← extractConditions devicesAt context 0 scenario.trigger.sources
  Conditions.evaluateTriggerExpression scenario.trigger.logic conditions

/-- `execute` goes on to execute the scenario. An error counts as a condition that is not met. -/
def Executes (devicesAt : Nat → DeviceSchema.DeviceStore) (scenario : Scenario)
    (context : ScenarioExecutionContext) : Prop :=
  shouldExecuteScenario devicesAt scenario context = .ok (some true)

instance (devicesAt : Nat → DeviceSchema.DeviceStore) (scenario : Scenario)
    (context : ScenarioExecutionContext) : Decidable (Executes devicesAt scenario context) :=
  match h : shouldExecuteScenario devicesAt scenario context with
  | .ok (some true) => isTrue h
  | .ok (some false) | .ok none | .error _ => isFalse fun hexecutes =>
      nomatch hexecutes.symm.trans h

/-- `getDeviceTriggeredScenarios` -/
def getDeviceTriggeredScenarios (scenarios : ScenarioStore) (deviceExternalId : String) :
    List Scenario :=
  scenarios.docs.filter fun scenario => scenario.active && scenario.trigger.sources.any
    fun source => source.type = .device && source.device.externalId = some deviceExternalId

/-! ## Actions -/

/-- `UpdatedDeviceSelector`. -/
inductive UpdatedDeviceSelector where
  | externalId (externalId : String)
  | ip (ip : String)
  | zigbeeFriendlyName (zigbeeFriendlyName : String)
  deriving DecidableEq, Repr

/-- `DeviceUpdateRequestedEvent`. -/
structure DeviceUpdateRequestedEvent where
  selector : UpdatedDeviceSelector
  update : UpdateDeviceDto
  propagate : Bool := true
  origin : DeviceUpdateOrigin := .api

/-- The events that `executeScenario` emits. -/
def requestedUpdates (scenario : Scenario) : List DeviceUpdateRequestedEvent :=
  scenario.actions.filterMap fun action => action.set.controls.map fun controls =>
    { selector := .externalId action.externalId
      update := { controls := some (some controls) } }

/-- The payload of `updateScenarioRepeatTimes`, for a scenario that counts its executions. -/
def repeatTimesPayload (scenario : Scenario) : Option UpdateScenarioDto :=
  match scenario.repeatTimes with
  | .value repeatTimes =>
      if repeatTimes.isInteger then
        let executionsLeft := repeatTimes.sub (.finite 1)
        if executionsLeft = .finite 0 then some { active := some false, repeatTimes := .null }
        else some { repeatTimes := .value executionsLeft }
      else none
  | _ => none

end MyHomeHub.ScenariosExecution
