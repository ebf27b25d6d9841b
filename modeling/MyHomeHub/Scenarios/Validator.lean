import MyHomeHub.DeviceConfigs.Validator
import MyHomeHub.Devices.Schema
import MyHomeHub.Scenarios.Interfaces

/-!
# The scenarios validator

`scenarios-validator.service`: a scenario may refer to stored devices only, and its
conditions and actions have to satisfy the configs of these devices. All violations are
reported at once, under the paths of the request.
-/

namespace MyHomeHub.ScenariosValidator

open JavaScript ConfigsValidator DeviceSchema

/-- The payload of a section in the conditions of a trigger source. -/
def conditionsOf (device : ScenarioTriggerDevice) : DeviceConfigSection → Option DevicePayload
  | .commands => device.commands
  | .controls => device.controls
  | .measurements => device.measurements

/-- `rebasePaths`: the paths of the validator start with the section, those of the request with the
place of the section. -/
def rebasePaths (errors : List ValidationError) (payloadSection : DeviceConfigSection)
    (path : String) : List ValidationError :=
  let sectionPrefix := (payloadSection.text ++ ".").toList
  errors.map fun error =>
    let errorPath := (error.path.getD "").toList
    let rebased :=
      if sectionPrefix.isPrefixOf errorPath then errorPath.drop sectionPrefix.length else errorPath
    { error with path := some (path ++ "." ++ String.ofList rebased) }

/-- `buildUnknownDeviceError` -/
def buildUnknownDeviceError (externalId : Option String) (path : String) : ValidationError where
  message :=
    match externalId with
    | none | some "" => "The id of the device is required to reference it in a scenario"
    | some externalId => s!"There is no device with the id \"{externalId}\""
  path := some path
  value := .ofOption (externalId.map .string)

/-- The device that `resolveDevices` finds for an id. An empty id is not looked up. -/
def resolveDevice (devices : DeviceStore) : Option String → Option Device
  | none | some "" => none
  | some externalId => findByExternalId devices externalId

variable [ExternalCalls]

/-- `validateConditions` -/
def validateConditions (configs : List DeviceConfig) (source : ScenarioTriggerDevice)
    (device : Device) (path : String) :
    List DeviceConfigSection → Except HubError (List ValidationError)
  | [] => .ok []
  | payloadSection :: sections => do
      let sectionErrors ←
        match conditionsOf source payloadSection with
        | none => .ok []
        | some conditions =>
            collectConditionErrors configs device.configKey payloadSection conditions
      let errors ← validateConditions configs source device path sections
      return rebasePaths sectionErrors payloadSection s!"{path}.{payloadSection.text}.are" ++ errors

/-- `validateTriggerSources` from an index on. -/
def validateTriggerSources (configs : List DeviceConfig) (devices : DeviceStore) :
    Nat → List ScenarioTriggerSource → Except HubError (List ValidationError)
  | _, [] => .ok []
  | index, source :: sources => do
      let path := s!"trigger.sources.{index}.device"
      let sourceErrors ←
        match source.type with
        | .cron => .ok []
        | .device =>
            match resolveDevice devices source.device.externalId with
            | none =>
                .ok [buildUnknownDeviceError source.device.externalId s!"{path}.externalId"]
            | some device =>
                validateConditions configs source.device device path
                  [.commands, .controls, .measurements]
      let errors ← validateTriggerSources configs devices (index + 1) sources
      return sourceErrors ++ errors

/-- The errors of one section of an action. -/
def validateActionSection (configs : List DeviceConfig) (device : Device) (path : String)
    (payloadSection : DeviceConfigSection) (payload : Option DevicePayload) :
    Except HubError (List ValidationError) :=
  match payload with
  | none => .ok []
  | some payload => do
      let errors ← collectPayloadErrors configs device.configKey payloadSection payload
      return rebasePaths errors payloadSection s!"{path}.set.{payloadSection.text}"

/-- The errors of one action. -/
def validateAction (configs : List DeviceConfig) (devices : DeviceStore) (path : String)
    (action : ScenarioAction) : Except HubError (List ValidationError) :=
  match resolveDevice devices (some action.externalId) with
  | none => .ok [buildUnknownDeviceError (some action.externalId) s!"{path}.externalId"]
  | some device => do
      let controls ← validateActionSection configs device path .controls action.set.controls
      let measurements ←
        validateActionSection configs device path .measurements action.set.measurements
      return controls ++ measurements

/-- `validateActions` from an index on. -/
def validateActions (configs : List DeviceConfig) (devices : DeviceStore) :
    Nat → List ScenarioAction → Except HubError (List ValidationError)
  | _, [] => .ok []
  | index, action :: actions => do
      let actionErrors ← validateAction configs devices s!"actions.{index}" action
      let errors ← validateActions configs devices (index + 1) actions
      return actionErrors ++ errors

/-- `validateScenario`: the trigger and the actions that a request has. -/
def validateScenario (configs : List DeviceConfig) (devices : DeviceStore)
    (trigger : Option ScenarioTrigger) (actions : Option (List ScenarioAction)) :
    Except HubError Unit := do
  let triggerErrors ← match trigger with
    | none => .ok []
    | some trigger => validateTriggerSources configs devices 0 trigger.sources
  let actionErrors ← validateActions configs devices 0 (actions.getD [])
  if (triggerErrors ++ actionErrors).isEmpty then return ()
  else throw (.customValidation (triggerErrors ++ actionErrors))

end MyHomeHub.ScenariosValidator
