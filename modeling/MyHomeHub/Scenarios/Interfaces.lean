import MyHomeHub.Devices.Interfaces

/-!
# Scenarios

The data model of `scenarios/interfaces` and of the scenario schemas. A trigger source
carries the fields of both of its types, as its schema does; the payloads of a device
trigger source are its `are` conditions.
-/

namespace MyHomeHub

open JavaScript

/-- `ScenarioTriggerSourceType`. -/
inductive ScenarioTriggerSourceType where
  | cron
  | device
  deriving DecidableEq, Repr

/-- `ScenarioCronTimeAdjustOption`. -/
inductive ScenarioCronTimeAdjustOption where
  | sunrise
  | sunset
  deriving DecidableEq, Repr

/-- The device of a trigger source and the payloads it is matched against. -/
structure ScenarioTriggerDevice where
  externalId : Option String := none
  controls : Option DevicePayload := none
  measurements : Option DevicePayload := none
  commands : Option DevicePayload := none

/-- `ScenarioTriggerSource`. -/
structure ScenarioTriggerSource where
  type : ScenarioTriggerSourceType
  cron : Option String := none
  adjustTo : Option ScenarioCronTimeAdjustOption := none
  device : ScenarioTriggerDevice := {}

/-- `ScenarioTrigger`. -/
structure ScenarioTrigger where
  sources : List ScenarioTriggerSource
  logic : String

/-- The payloads a scenario action sets. -/
structure ScenarioActionSet where
  controls : Option DevicePayload := none
  measurements : Option DevicePayload := none

/-- `ScenarioAction`. -/
structure ScenarioAction where
  externalId : String
  set : ScenarioActionSet

/-- `Scenario`: a stored scenario. -/
structure Scenario where
  externalId : String
  name : String
  description : Optional String := .undefined
  group : Optional String := .undefined
  active : Bool := true
  repeatTimes : Optional Number := .undefined
  trigger : ScenarioTrigger
  actions : List ScenarioAction

/-- `ScenarioGroup`. -/
structure ScenarioGroup where
  name : String
  scenariosCount : Nat
  deriving DecidableEq, Repr

end MyHomeHub
