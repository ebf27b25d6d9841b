import MyHomeHub.DeviceConfigs.Validator
import MyHomeHub.Devices.ControlsDto

/-!
# The devices control service

`devices-control.service`: the checks a payload passes before it is stored or sent. The
device config is applied to the incoming payload, and the class of the brand to the
payload that results from merging it into the stored one.

`mergePayload` removes the `$override` flag from the object it is given. That is the
payload of the request itself where no config applies, so the functions return the
incoming payload as they leave it next to their result.
-/

namespace MyHomeHub.ControlService

open JavaScript ConfigsValidator

/-- `mergePayload`: the merged payload and the payload it was given, without the flag. -/
def mergePayload (payload oldPayload : DevicePayload) : DevicePayload × DevicePayload :=
  let override := (payload.get devicePayloadOverrideKey).truthy
  let stripped := payload.erase devicePayloadOverrideKey
  (if override then stripped else Object.spread oldPayload stripped, stripped)

/-- The result of a merge, and the incoming payload after it. -/
structure MergedPayload where
  merged : DevicePayload
  incoming : DevicePayload

section

variable [ExternalCalls]

/-- `getControlService`: every brand has a control service, which is known by the class of its
controls. -/
def getControlService (device : Device) : Except HubError PayloadDto :=
  match device.brand with
  | .value brand => .ok (controlsDtoType brand device.type)
  | _ =>
      let type := match device.type with
        | .value type => type.text
        | .null => "null"
        | .undefined => "undefined"
      .error (.thrown (s!"The device of type \"{type}\" does not have an implementation of a " ++
        "device control service yet"))

/-- `validatePayload`: the payload has to pass the rules of a class. -/
def validateDto (payload : DevicePayload) (dto : PayloadDto) : Except HubError DevicePayload :=
  match dto.errors payload with
  | [] => .ok payload
  | errors => .error (.customValidation errors)

/-- `mergeValidateControls` and `mergeValidateMeasurements`, which differ in the section and in
the class of the result. The old payload is given as it is after the incoming one was changed. -/
def mergeValidate (configs : List DeviceConfig) (key : DeviceKey)
    (payloadSection : DeviceConfigSection) (dto : PayloadDto) (incoming : DevicePayload)
    (oldPayload : DevicePayload → DevicePayload) (policy : DeviceConfigValidationPolicy) :
    Except HubError MergedPayload := do
  let validated ← validateSection configs key payloadSection incoming policy
  let after := if validated.isInput then incoming.erase devicePayloadOverrideKey else incoming
  let (merged, _) := mergePayload validated.payload (oldPayload after)
  let merged ← validateDto merged dto
  return ⟨merged, after⟩

/-- `validateCommand`: the flag of a command is not removed. -/
def validateCommand (configs : List DeviceConfig) (key : DeviceKey) (dto : PayloadDto)
    (command : DevicePayload) (policy : DeviceConfigValidationPolicy) :
    Except HubError DevicePayload := do
  let validated ← validateSection configs key .commands command policy
  validateDto validated.payload dto

end

/-- `applyConfigDefaults`: the values of the device win over the defaults. -/
def applyConfigDefaults (configs : List DeviceConfig) (device : Device) : Device :=
  let defaults := buildDefaultPayloads configs device.configKey
  { device with
    controls := Object.spread defaults.controls device.controls
    measurements := Object.spread defaults.measurements device.measurements }

/-! ## What the functions return -/

/-- A payload without its flag. -/
theorem lookup_erase_override (payload : DevicePayload) (name : String) :
    (payload.erase devicePayloadOverrideKey).lookup name =
      if name = devicePayloadOverrideKey then none else payload.lookup name := by
  by_cases hname : name = devicePayloadOverrideKey
  · rw [if_pos hname, hname, AList.lookup_erase]
  · rw [if_neg hname, AList.lookup_erase_ne hname]

/-- A merged payload reads the new entries first, and the old ones unless the flag is set. -/
theorem lookup_merge_payload (payload oldPayload : DevicePayload) (name : String) :
    (mergePayload payload oldPayload).1.lookup name =
      ((payload.erase devicePayloadOverrideKey).lookup name).or
        (if (payload.get devicePayloadOverrideKey).truthy then none
          else oldPayload.lookup name) := by
  rw [mergePayload]
  split
  · rw [Option.or_none]
  · exact Object.lookup_spread _ _ name

variable [ExternalCalls] {configs : List DeviceConfig} {key : DeviceKey}
  {payloadSection : DeviceConfigSection} {dto : PayloadDto} {incoming : DevicePayload}
  {oldPayload : DevicePayload → DevicePayload} {policy : DeviceConfigValidationPolicy}

omit [ExternalCalls] in
theorem validate_dto_ok {payload result : DevicePayload}
    (h : validateDto payload dto = .ok result) : result = payload ∧ dto.errors payload = [] := by
  rw [validateDto] at h
  split at h
  · rename_i herrors
    cases h
    exact ⟨rfl, herrors⟩
  · cases h

/-- A payload is merged after it passed the device config, and the result passes the class. -/
theorem merge_validate_ok {result : MergedPayload}
    (h : mergeValidate configs key payloadSection dto incoming oldPayload policy = .ok result) :
    ∃ validated,
      validateSection configs key payloadSection incoming policy = .ok validated ∧
      result.incoming = (if validated.isInput then incoming.erase devicePayloadOverrideKey
        else incoming) ∧
      result.merged = (mergePayload validated.payload (oldPayload result.incoming)).1 ∧
      dto.errors result.merged = [] := by
  rw [mergeValidate] at h
  cases hsection : validateSection configs key payloadSection incoming policy with
  | error error => simp [hsection, bind, Except.bind] at h
  | ok validated =>
      simp only [hsection, bind, Except.bind] at h
      split at h
      · cases h
      · rename_i merged hdto
        obtain ⟨hmerged, herrors⟩ := validate_dto_ok hdto
        cases h
        exact ⟨validated, rfl, rfl, hmerged, hmerged ▸ herrors⟩

omit [ExternalCalls] in
/-- A seeded payload reads the values of the device first. -/
theorem lookup_apply_config_defaults (configs : List DeviceConfig) (device : Device) :
    (∀ name, (applyConfigDefaults configs device).controls.lookup name =
      (device.controls.lookup name).or
        ((buildDefaultPayloads configs device.configKey).controls.lookup name)) ∧
    (∀ name, (applyConfigDefaults configs device).measurements.lookup name =
      (device.measurements.lookup name).or
        ((buildDefaultPayloads configs device.configKey).measurements.lookup name)) :=
  ⟨fun name => Object.lookup_spread _ _ name, fun name => Object.lookup_spread _ _ name⟩

end MyHomeHub.ControlService
