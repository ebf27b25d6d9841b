import MyHomeHub.Devices.ControlService
import MyHomeHub.Devices.Schema

/-!
# The devices service

`devices.service`: adding and updating devices and sending commands to them. A call reads
the stored devices, works on a document in memory and saves it. What it does besides
(handing controls to a control service, renaming a Zigbee device, emitting events) is the
list of its effects, which stay in the outcome of a call that rejects later on.
-/

namespace MyHomeHub.DevicesService

open JavaScript ConfigsValidator ControlService DeviceSchema

/-! ## Requests -/

/-- The fields of a request other than the payloads, `none` for a field that the request does not
have. -/
structure DeviceFieldsDto where
  name : Option (Optional String) := none
  type : Option (Optional DeviceType) := none
  brand : Option (Optional DeviceBrand) := none
  room : Option (Optional Room) := none
  transportProtocol : Option (Optional TransportProtocol) := none
  updateInterval : Option (Optional Number) := none
  ip : Option (Optional String) := none
  tuyaDeviceId : Option (Optional String) := none
  tuyaDeviceLocalKey : Option (Optional String) := none
  zigbeeFriendlyName : Option (Optional String) := none

/-- `UpdateDeviceDto`. A payload that the request has can still be null, which is `some none`. -/
structure UpdateDeviceDto extends DeviceFieldsDto where
  controls : Option (Option DevicePayload) := none
  measurements : Option (Option DevicePayload) := none

/-- `CreateDeviceDto`. -/
structure CreateDeviceDto extends UpdateDeviceDto where
  zigbeeIeeeAddress : Option (Optional String) := none

/-- `UpdateDeviceOptions`. -/
structure UpdateDeviceOptions where
  propagateControls : Bool := true
  origin : Option DeviceUpdateOrigin := none

/-! ## The hub -/

/-- What the devices service works on: the stored devices and configs, the Zigbee devices the
bridge last reported, as pairs of an IEEE address and a friendly name, and whether the bridge is
connected. -/
structure Hub where
  devices : DeviceStore
  configs : List DeviceConfig
  pairableDevices : List (String × String) := []
  bridgeConnected : Bool := false

/-- What a call does besides storing a device. -/
inductive DeviceEffect where
  /-- `setControls` of the control service of the device. -/
  | setControls (externalId : String) (controls : DevicePayload)
  /-- A rename request that is published to the Zigbee bridge. -/
  | renameDevice (ieeeAddress newFriendlyName : Optional String)
  /-- `DeviceUpdateCompletedEvent` -/
  | deviceUpdateCompleted (externalId : String) (controlsUpdated measurementsUpdated : Bool)
  /-- `DeviceCommandExecutedEvent` -/
  | deviceCommandExecuted (externalId : String) (commands : DevicePayload)

/-- The stored devices after a call, what the call did, and what it returned. -/
structure Outcome where
  devices : DeviceStore
  effects : List DeviceEffect
  result : Except HubError Device

/-! ## Assigning a request to a document -/

/-- The field of a document after the assignment of the field of a request. -/
def assignField {α : Type} (field : α) (dto : Option α) : α :=
  dto.getD field

/-- The fields of `assignDtoValues` outside the payloads. The schema trims the name. -/
def assignFields (device : Device) (dto : DeviceFieldsDto) : Device :=
  { device with
    name := assignField device.name (dto.name.map fun name =>
      match name with
      | .value name => .value (trim name)
      | other => other)
    type := assignField device.type dto.type
    brand := assignField device.brand dto.brand
    room := assignField device.room dto.room
    transportProtocol := assignField device.transportProtocol dto.transportProtocol
    updateInterval := assignField device.updateInterval dto.updateInterval
    ip := assignField device.ip dto.ip
    tuyaDeviceId := assignField device.tuyaDeviceId dto.tuyaDeviceId
    tuyaDeviceLocalKey := assignField device.tuyaDeviceLocalKey dto.tuyaDeviceLocalKey
    zigbeeFriendlyName := assignField device.zigbeeFriendlyName dto.zigbeeFriendlyName }

/-- `updateDeviceDto[field] !== undefined && updateDeviceDto[field] !== device[field]` -/
def isFieldChanged {α : Type} [DecidableEq α] (field : Optional α)
    (dto : Option (Optional α)) : Bool :=
  match dto with
  | none | some .undefined => false
  | some value => value ≠ field

/-- `isDeviceConfigKeyChanged` -/
def isDeviceConfigKeyChanged (device : Device) (dto : DeviceFieldsDto) : Bool :=
  isFieldChanged device.brand dto.brand || isFieldChanged device.type dto.type ||
    isFieldChanged device.transportProtocol dto.transportProtocol

/-- `buildValidationPolicy` -/
def buildValidationPolicy (origin : Option DeviceUpdateOrigin) : DeviceConfigValidationPolicy :=
  if origin = some .device then .sanitize else .reject

/-- The document with the values of a request, and the payloads of the request as the call leaves
them. -/
structure AssignedDevice where
  device : Device
  controls : Option DevicePayload
  measurements : Option DevicePayload

variable [ExternalCalls]

/-- One payload of `assignDtoValues`: the payload to store, unless the request has none, and the
payload of the request after the call. The stored payload of a new document is the payload of the
request itself, so it changes along with it. -/
def assignPayload (configs : List DeviceConfig) (device : Device)
    (payloadSection : DeviceConfigSection) (dto : PayloadDto → PayloadDto)
    (incoming : Option (Option DevicePayload)) (oldPayload : DevicePayload → DevicePayload)
    (policy : DeviceConfigValidationPolicy) : Except HubError (Option MergedPayload) :=
  match incoming with
  | none => .ok none
  | some payload => do
      let controlsDto ← getControlService device
      -- null is not undefined, so it is merged as well
      match payload with
      | none => throw .typeError
      | some payload =>
          let merged ← mergeValidate configs device.configKey payloadSection (dto controlsDto)
            payload oldPayload policy
          return some merged

/-- The payloads of `assignDtoValues`: controls before measurements. -/
def assignPayloads (configs : List DeviceConfig) (device : Device) (dto : UpdateDeviceDto)
    (oldControls oldMeasurements : DevicePayload → DevicePayload)
    (policy : DeviceConfigValidationPolicy) : Except HubError AssignedDevice := do
  let controls ← assignPayload configs device .controls id dto.controls oldControls policy
  let device := { device with controls := (controls.map (·.merged)).getD device.controls }
  let measurements ← assignPayload configs device .measurements (fun _ => devicePayloadDto)
    dto.measurements oldMeasurements policy
  let device :=
    { device with measurements := (measurements.map (·.merged)).getD device.measurements }
  return ⟨device, controls.map (·.incoming), measurements.map (·.incoming)⟩

/-- `!!Object.keys(payload ?? {}).length` -/
def payloadUpdated (payload : Option DevicePayload) : Bool :=
  payload.any fun payload => !payload.keys.isEmpty

/-- `updateDevice` up to the point where it talks to the device: the document in memory. -/
def prepareUpdate (configs : List DeviceConfig) (device : Device) (dto : UpdateDeviceDto)
    (origin : Option DeviceUpdateOrigin) : Except HubError AssignedDevice := do
  let assigned ← assignPayloads configs (assignFields device dto.toDeviceFieldsDto) dto
    (fun _ => device.controls) (fun _ => device.measurements) (buildValidationPolicy origin)
  if isDeviceConfigKeyChanged device dto.toDeviceFieldsDto then
    let _ ← getControlService assigned.device
    return { assigned with device := applyConfigDefaults configs assigned.device }
  else return assigned

/-! ## Calls -/

/-- `renameDevice` of the Zigbee service, which publishes only to a connected bridge. -/
def renameDevice (hub : Hub) (ieeeAddress newFriendlyName : Optional String) :
    List DeviceEffect :=
  if hub.bridgeConnected then [.renameDevice ieeeAddress newFriendlyName] else []

/-- The rename of `updateDevice`: the bridge knows the device under another name. -/
def renameUpdated (hub : Hub) (device : Device) : List DeviceEffect :=
  match device.zigbeeIeeeAddress with
  | .value ieeeAddress =>
      let oldZigbeeFriendlyName : Optional String :=
        match hub.pairableDevices.lookup ieeeAddress with
        | some name => .value name
        | none => .undefined
      if ieeeAddress ≠ "" && oldZigbeeFriendlyName ≠ device.zigbeeFriendlyName then
        renameDevice hub device.zigbeeIeeeAddress device.zigbeeFriendlyName
      else []
  | _ => []

/-- `findDevice` of the strict lookups. -/
def deviceNotFound : HubError :=
  .notFound "There is no device matching these criteria"

/-- `updateDevice` -/
def updateDevice (hub : Hub) (externalId : String) (dto : UpdateDeviceDto)
    (options : UpdateDeviceOptions) : Outcome :=
  match findByExternalId hub.devices externalId with
  | none => ⟨hub.devices, [], .error deviceNotFound⟩
  | some device =>
      match prepareUpdate hub.configs device dto options.origin with
      | .error error => ⟨hub.devices, [], .error error⟩
      | .ok assigned =>
          let controlsUpdated := payloadUpdated assigned.controls
          -- the device hears of its controls before the document is saved
          let effects : List DeviceEffect :=
            if controlsUpdated && options.propagateControls then
              [.setControls externalId assigned.device.controls]
            else []
          match save hub.devices device assigned.device with
          | .error error => ⟨hub.devices, effects, .error error⟩
          | .ok (devices, saved) =>
              ⟨devices, effects ++ renameUpdated hub saved ++
                [.deviceUpdateCompleted externalId controlsUpdated
                  (payloadUpdated assigned.measurements)], .ok saved⟩

/-- `sendCommand` -/
def sendCommand (hub : Hub) (externalId : String) (command : DevicePayload)
    (origin : Option DeviceUpdateOrigin) : Outcome :=
  match findByExternalId hub.devices externalId with
  | none => ⟨hub.devices, [], .error deviceNotFound⟩
  | some device =>
      let validated := do
        let controlsDto ← getControlService device
        validateCommand hub.configs device.configKey controlsDto command
          (buildValidationPolicy origin)
      match validated with
      | .error error => ⟨hub.devices, [], .error error⟩
      | .ok command =>
          ⟨hub.devices, [.setControls externalId command,
            .deviceCommandExecuted externalId command], .ok device⟩

/-- `new this.deviceModel(deviceDto)`: the document keeps the payloads of the request, not copies
of them. -/
def newDevice (externalId : String) (dto : CreateDeviceDto) : Device :=
  let device := assignFields
    { externalId := externalId, name := .undefined, type := .undefined,
      transportProtocol := .undefined } dto.toDeviceFieldsDto
  { device with
    zigbeeIeeeAddress := assignField device.zigbeeIeeeAddress dto.zigbeeIeeeAddress
    controls := (dto.controls.bind id).getD device.controls
    measurements := (dto.measurements.bind id).getD device.measurements }

/-- `addDevice` up to the point where it saves: the document in memory. -/
def prepareDevice (configs : List DeviceConfig) (externalId : String) (dto : CreateDeviceDto)
    (origin : Option DeviceUpdateOrigin) : Except HubError Device := do
  let assigned ← assignPayloads configs (newDevice externalId dto) dto.toUpdateDeviceDto id id
    (buildValidationPolicy origin)
  let _ ← getControlService assigned.device
  return applyConfigDefaults configs assigned.device

/-- `addDevice`. The schema generates the external id. -/
def addDevice (hub : Hub) (externalId : String) (dto : CreateDeviceDto)
    (origin : Option DeviceUpdateOrigin) : Outcome :=
  let name := (newDevice externalId dto).name
  let ieeeAddress := (newDevice externalId dto).zigbeeIeeeAddress
  if hub.devices.docs.any (fun device => device.name = name) then
    let text := (dto.name.getD .undefined).getD "undefined"
    ⟨hub.devices, [], .error (.fieldValidation
      s!"Device with the same name ('{text}') already exists" "name")⟩
  else if ieeeAddress.isNonEmpty &&
      (hub.pairableDevices.lookup (ieeeAddress.getD "")).isNone then
    let text := ieeeAddress.getD ""
    ⟨hub.devices, [], .error (.fieldValidation
      (s!"Device with the provided zigbee Ieee ('{text}') is not discoverable. " ++
        "Make sure it's pairable first") "zigbeeIeeeAddress")⟩
  else
    match prepareDevice hub.configs externalId dto origin with
    | .error error => ⟨hub.devices, [], .error error⟩
    | .ok device =>
        match saveNew hub.devices device with
        | .error error => ⟨hub.devices, [], .error error⟩
        | .ok (devices, saved) =>
            ⟨devices, if saved.zigbeeFriendlyName.isNonEmpty then
              renameDevice hub saved.zigbeeIeeeAddress saved.zigbeeFriendlyName else [],
              .ok saved⟩

/-! ## What the calls do -/

section

variable {configs : List DeviceConfig} {device : Device} {dto : UpdateDeviceDto}
  {oldControls oldMeasurements : DevicePayload → DevicePayload}
  {policy : DeviceConfigValidationPolicy}

/-- What one assigned payload comes from: the request has none, or it is merged. -/
theorem assign_payload_ok {payloadSection : DeviceConfigSection} {dto : PayloadDto → PayloadDto}
    {incoming : Option (Option DevicePayload)} {oldPayload : DevicePayload → DevicePayload}
    {result : Option MergedPayload}
    (h : assignPayload configs device payloadSection dto incoming oldPayload policy =
      .ok result) :
    (incoming = none ∧ result = none) ∨
      ∃ payload controlsDto merged, incoming = some (some payload) ∧
        getControlService device = .ok controlsDto ∧
        mergeValidate configs device.configKey payloadSection (dto controlsDto) payload oldPayload
          policy = .ok merged ∧ result = some merged := by
  cases incoming with
  | none =>
      cases h
      exact .inl ⟨rfl, rfl⟩
  | some payload =>
      unfold assignPayload at h
      cases hservice : getControlService device with
      | error error => simp [hservice, bind, Except.bind] at h
      | ok controlsDto =>
          cases payload with
          | none => simp [hservice, bind, Except.bind, throw, throwThe, MonadExceptOf.throw] at h
          | some payload =>
              simp only [hservice, bind, Except.bind] at h
              split at h
              · cases h
              · rename_i merged hmerge
                cases h
                exact .inr ⟨payload, controlsDto, merged, rfl, rfl, hmerge, rfl⟩

/-- The document after the assignment of the payloads. -/
theorem assign_payloads_ok {assigned : AssignedDevice}
    (h : assignPayloads configs device dto oldControls oldMeasurements policy = .ok assigned) :
    ∃ controls measurements,
      assignPayload configs device .controls id dto.controls oldControls policy = .ok controls ∧
      assignPayload configs device .measurements (fun _ => devicePayloadDto) dto.measurements
        oldMeasurements policy = .ok measurements ∧
      assigned =
        ⟨{ device with
            controls := (controls.map (·.merged)).getD device.controls
            measurements := (measurements.map (·.merged)).getD device.measurements },
          controls.map (·.incoming), measurements.map (·.incoming)⟩ := by
  rw [assignPayloads] at h
  cases hcontrols : assignPayload configs device .controls id dto.controls oldControls policy with
  | error error => simp [hcontrols, bind, Except.bind] at h
  | ok controls =>
      simp only [hcontrols, bind, Except.bind] at h
      split at h
      · cases h
      · rename_i measurements hmeasurements
        cases h
        exact ⟨controls, measurements, rfl, hmeasurements, rfl⟩

/-- The document before it is saved: defaults are filled in when the config key changed. -/
theorem prepare_update_ok {origin : Option DeviceUpdateOrigin} {assigned : AssignedDevice}
    (h : prepareUpdate configs device dto origin = .ok assigned) :
    ∃ base, assignPayloads configs (assignFields device dto.toDeviceFieldsDto) dto
        (fun _ => device.controls) (fun _ => device.measurements) (buildValidationPolicy origin) =
          .ok base ∧
      assigned = if isDeviceConfigKeyChanged device dto.toDeviceFieldsDto
        then { base with device := applyConfigDefaults configs base.device } else base := by
  rw [prepareUpdate] at h
  cases hbase : assignPayloads configs (assignFields device dto.toDeviceFieldsDto) dto
      (fun _ => device.controls) (fun _ => device.measurements) (buildValidationPolicy origin) with
  | error error => simp [hbase, bind, Except.bind] at h
  | ok base =>
      refine ⟨base, rfl, ?_⟩
      simp only [hbase, bind, Except.bind] at h
      split at h
      · rename_i hchanged
        rw [if_pos hchanged]
        split at h
        · cases h
        · cases h
          rfl
      · rename_i hchanged
        rw [if_neg hchanged]
        cases h
        rfl

/-- An accepted update saved the prepared document. -/
theorem update_device_ok {hub : Hub} {externalId : String} {options : UpdateDeviceOptions}
    {saved : Device} (h : (updateDevice hub externalId dto options).result = .ok saved) :
    ∃ device assigned, findByExternalId hub.devices externalId = some device ∧
      prepareUpdate hub.configs device dto options.origin = .ok assigned ∧
      save hub.devices device assigned.device =
        .ok ((updateDevice hub externalId dto options).devices, saved) := by
  revert h
  rw [updateDevice]
  split
  · intro h
    cases h
  · rename_i device hdevice
    split
    · intro h
      cases h
    · rename_i assigned hassigned
      dsimp only
      split
      · intro h
        cases h
      · rename_i devices saved' hsave
        intro h
        cases h
        exact ⟨device, assigned, hdevice, hassigned, hsave⟩

omit [ExternalCalls] in
/-- A field that keeps its value has not changed, and one that gets another value has. -/
theorem is_field_changed_iff {α : Type} [DecidableEq α] {field : Optional α}
    {dto : Option (Optional α)} {value : α} (hvalue : assignField field dto = .value value) :
    isFieldChanged field dto = true ↔ field ≠ .value value := by
  unfold assignField at hvalue
  unfold isFieldChanged
  cases dto with
  | none =>
      rw [Option.getD_none] at hvalue
      simp [hvalue]
  | some dtoValue =>
      rw [Option.getD_some] at hvalue
      subst hvalue
      show decide (Optional.value value ≠ field) = true ↔ _
      rw [decide_eq_true_iff, ne_comm]

omit [ExternalCalls] in
/-- The config key of a device that an update with a config leads to has changed exactly when the
update notices it. -/
theorem is_device_config_key_changed_iff {config : DeviceConfig}
    (hconfig : getConfig configs (assignFields device dto.toDeviceFieldsDto).configKey =
      some config) :
    isDeviceConfigKeyChanged device dto.toDeviceFieldsDto = true ↔
      (assignFields device dto.toDeviceFieldsDto).configKey ≠ device.configKey := by
  have hkey : config.key = (assignFields device dto.toDeviceFieldsDto).configKey := by
    simpa [getConfig] using List.find?_some hconfig
  obtain ⟨hbrand, htype, hprotocol⟩ := DeviceKey.mk.inj hkey
  rw [isDeviceConfigKeyChanged, Bool.or_eq_true, Bool.or_eq_true,
    is_field_changed_iff hbrand.symm, is_field_changed_iff htype.symm,
    is_field_changed_iff hprotocol.symm, ← hkey]
  simp only [DeviceConfig.key, Device.configKey, ne_eq, DeviceKey.mk.injEq, not_and_or,
    eq_comm, or_assoc]

/-- What an accepted update stores: under the new config key, the assigned payloads, filled up with
the defaults when the key has changed. -/
theorem stored_of_update {hub : Hub} {externalId : String} {options : UpdateDeviceOptions}
    {saved : Device} (hdevice : findByExternalId hub.devices externalId = some device)
    (h : (updateDevice hub externalId dto options).result = .ok saved) :
    ∃ stored controls measurements,
      findByExternalId (updateDevice hub externalId dto options).devices externalId =
        some stored ∧
      stored.configKey = (assignFields device dto.toDeviceFieldsDto).configKey ∧
      assignPayload hub.configs (assignFields device dto.toDeviceFieldsDto) .controls id
        dto.controls (fun _ => device.controls) (buildValidationPolicy options.origin) =
          .ok controls ∧
      assignPayload hub.configs (assignFields device dto.toDeviceFieldsDto) .measurements
        (fun _ => devicePayloadDto) dto.measurements (fun _ => device.measurements)
        (buildValidationPolicy options.origin) = .ok measurements ∧
      ∀ name,
        (stored.controls.lookup name =
          (((controls.map (·.merged)).getD device.controls).lookup name).or
            (if isDeviceConfigKeyChanged device dto.toDeviceFieldsDto then
              (buildDefaultPayloads hub.configs stored.configKey).controls.lookup name
            else none)) ∧
        (stored.measurements.lookup name =
          (((measurements.map (·.merged)).getD device.measurements).lookup name).or
            (if isDeviceConfigKeyChanged device dto.toDeviceFieldsDto then
              (buildDefaultPayloads hub.configs stored.configKey).measurements.lookup name
            else none)) := by
  obtain ⟨found, assigned, hfound, hprepare, hsave⟩ := update_device_ok h
  rw [hdevice, Option.some.injEq] at hfound
  subst hfound
  obtain ⟨hmem, rfl⟩ := find_by_external_id_iff.mp hdevice
  obtain ⟨hsaved, -, -⟩ := save_ok hmem hsave
  obtain ⟨hkey, hcontrols, hmeasurements⟩ := write_modified_same device saved
  obtain ⟨base, hbase, hassigned⟩ := prepare_update_ok hprepare
  obtain ⟨controls, measurements, hassignControls, hassignMeasurements, rfl⟩ :=
    assign_payloads_ok hbase
  refine ⟨_, controls, measurements, find_after_save hmem hsave, ?_, hassignControls,
    hassignMeasurements, fun name => ?_⟩
  · rw [hkey, hsaved, drop_config_key, hassigned]
    split <;> rfl
  · rw [hcontrols name, hmeasurements name, hkey, hsaved, drop_config_key, drop_controls,
      drop_measurements, hassigned]
    split
    · exact ⟨(lookup_apply_config_defaults _ _).1 name, (lookup_apply_config_defaults _ _).2 name⟩
    · exact ⟨Option.or_none.symm, Option.or_none.symm⟩

/-! ### Every outcome -/

omit [ExternalCalls] in
/-- The rename of an update is nothing but a rename. -/
theorem rename_updated_effects {hub : Hub} {effect : DeviceEffect}
    (h : effect ∈ renameUpdated hub device) :
    ∃ ieeeAddress name, effect = .renameDevice ieeeAddress name := by
  have hrename (ieeeAddress name : Optional String)
      (h : effect ∈ renameDevice hub ieeeAddress name) :
      ∃ ieeeAddress name, effect = .renameDevice ieeeAddress name := by
    unfold renameDevice at h
    split at h
    · exact ⟨ieeeAddress, name, List.mem_singleton.mp h⟩
    · exact absurd h List.not_mem_nil
  unfold renameUpdated at h
  split at h
  · dsimp only at h
    split at h <;> split at h
    · exact hrename _ _ h
    · exact absurd h List.not_mem_nil
    · exact hrename _ _ h
    · exact absurd h List.not_mem_nil
  · exact absurd h List.not_mem_nil

/-- What an update can do besides storing the device, where the controls are those of the prepared
document. -/
inductive UpdateEffect (externalId : String) (controls : DevicePayload) : DeviceEffect → Prop
  | setControls : UpdateEffect externalId controls (.setControls externalId controls)
  | renameDevice (ieeeAddress newFriendlyName : Optional String) :
      UpdateEffect externalId controls (.renameDevice ieeeAddress newFriendlyName)
  | deviceUpdateCompleted (controlsUpdated measurementsUpdated : Bool) :
      UpdateEffect externalId controls
        (.deviceUpdateCompleted externalId controlsUpdated measurementsUpdated)

/-- An update that prepares no document does nothing. Otherwise it hands the controls of the
prepared document to the device at most, and the document is saved or nothing is stored. -/
theorem update_device_cases (hub : Hub) (externalId : String) (dto : UpdateDeviceDto)
    (options : UpdateDeviceOptions) :
    ((updateDevice hub externalId dto options).devices = hub.devices ∧
      (updateDevice hub externalId dto options).effects = []) ∨
    ∃ device assigned, findByExternalId hub.devices externalId = some device ∧
      prepareUpdate hub.configs device dto options.origin = .ok assigned ∧
      (∀ effect ∈ (updateDevice hub externalId dto options).effects,
        UpdateEffect externalId assigned.device.controls effect) ∧
      ((updateDevice hub externalId dto options).devices = hub.devices ∨
        ∃ saved, save hub.devices device assigned.device =
          .ok ((updateDevice hub externalId dto options).devices, saved)) := by
  rw [updateDevice]
  split
  · exact .inl ⟨rfl, rfl⟩
  · rename_i device hdevice
    split
    · exact .inl ⟨rfl, rfl⟩
    · rename_i assigned hassigned
      refine .inr ⟨device, assigned, hdevice, hassigned, ?_⟩
      dsimp only
      have hpropagated (condition : Bool) (effect : DeviceEffect)
          (hmem : effect ∈ if condition then
            [.setControls externalId assigned.device.controls] else []) :
          UpdateEffect externalId assigned.device.controls effect := by
        cases condition with
        | false => cases hmem
        | true =>
            cases List.mem_singleton.mp hmem
            exact .setControls
      split
      · exact ⟨fun effect hmem => hpropagated _ effect hmem, .inl rfl⟩
      · rename_i devices saved hsave
        refine ⟨fun effect hmem => ?_, .inr ⟨saved, hsave⟩⟩
        rcases List.mem_append.mp hmem with hmem | hmem
        · rcases List.mem_append.mp hmem with hmem | hmem
          · exact hpropagated _ effect hmem
          · obtain ⟨ieeeAddress, name, rfl⟩ := rename_updated_effects hmem
            exact .renameDevice ieeeAddress name
        · cases List.mem_singleton.mp hmem
          exact .deviceUpdateCompleted _ _

/-- A new device is stored as it was prepared, or nothing is stored. No controls are sent. -/
theorem add_device_cases (hub : Hub) (externalId : String) (dto : CreateDeviceDto)
    (origin : Option DeviceUpdateOrigin) :
    (∀ id controls, .setControls id controls ∉ (addDevice hub externalId dto origin).effects) ∧
    ((addDevice hub externalId dto origin).devices = hub.devices ∨
      ∃ device saved, prepareDevice hub.configs externalId dto origin = .ok device ∧
        saveNew hub.devices device =
          .ok ((addDevice hub externalId dto origin).devices, saved)) := by
  rw [addDevice]
  dsimp only
  split
  · exact ⟨fun _ _ => List.not_mem_nil, .inl rfl⟩
  · split
    · exact ⟨fun _ _ => List.not_mem_nil, .inl rfl⟩
    · split
      · exact ⟨fun _ _ => List.not_mem_nil, .inl rfl⟩
      · rename_i device hdevice
        split
        · exact ⟨fun _ _ => List.not_mem_nil, .inl rfl⟩
        · rename_i devices saved hsave
          refine ⟨fun id controls => ?_, .inr ⟨device, saved, hdevice, hsave⟩⟩
          unfold renameDevice
          split <;> (try split) <;> simp

/-- An accepted new device was saved as it was prepared. -/
theorem add_device_ok {hub : Hub} {externalId : String} {dto : CreateDeviceDto}
    {origin : Option DeviceUpdateOrigin} {saved : Device}
    (h : (addDevice hub externalId dto origin).result = .ok saved) :
    ∃ device, prepareDevice hub.configs externalId dto origin = .ok device ∧
      saveNew hub.devices device = .ok ((addDevice hub externalId dto origin).devices, saved) := by
  revert h
  rw [addDevice]
  dsimp only
  split
  · intro h
    cases h
  · split
    · intro h
      cases h
    · split
      · intro h
        cases h
      · rename_i device hdevice
        split
        · intro h
          cases h
        · rename_i devices saved' hsave
          intro h
          cases h
          exact ⟨device, hdevice, hsave⟩

/-- A command stores nothing. What it sends was validated. -/
theorem send_command_cases (hub : Hub) (externalId : String) (command : DevicePayload)
    (origin : Option DeviceUpdateOrigin) :
    (sendCommand hub externalId command origin).devices = hub.devices ∧
    ∀ id controls, .setControls id controls ∈
        (sendCommand hub externalId command origin).effects →
      ∃ device controlsDto, findByExternalId hub.devices externalId = some device ∧
        validateCommand hub.configs device.configKey controlsDto command
          (buildValidationPolicy origin) = .ok controls := by
  rw [sendCommand]
  split
  · exact ⟨rfl, fun _ _ hmem => by cases hmem⟩
  · rename_i device hdevice
    dsimp only
    split
    · exact ⟨rfl, fun _ _ hmem => by cases hmem⟩
    · rename_i validated hvalidated
      refine ⟨rfl, fun id controls hmem => ?_⟩
      obtain ⟨-, hcontrols⟩ : id = externalId ∧ controls = validated := by simpa using hmem
      cases hservice : getControlService device with
      | error error => simp [hservice, bind, Except.bind] at hvalidated
      | ok controlsDto =>
          simp only [hservice, bind, Except.bind] at hvalidated
          exact ⟨device, controlsDto, hdevice, hcontrols ▸ hvalidated⟩

/-- The document of a new device before it is saved. -/
theorem prepare_device_ok {externalId : String} {dto : CreateDeviceDto}
    {origin : Option DeviceUpdateOrigin}
    (h : prepareDevice configs externalId dto origin = .ok device) :
    ∃ assigned, assignPayloads configs (newDevice externalId dto) dto.toUpdateDeviceDto id id
        (buildValidationPolicy origin) = .ok assigned ∧
      device = applyConfigDefaults configs assigned.device := by
  rw [prepareDevice] at h
  cases hassigned : assignPayloads configs (newDevice externalId dto) dto.toUpdateDeviceDto id id
      (buildValidationPolicy origin) with
  | error error => simp [hassigned, bind, Except.bind] at h
  | ok assigned =>
      simp only [hassigned, bind, Except.bind] at h
      split at h
      · cases h
      · cases h
        exact ⟨assigned, rfl, rfl⟩

end

end MyHomeHub.DevicesService
