import MyHomeHub.DeviceConfigs.Mapper
import MyHomeHub.Devices.RejectedUpdates

/-!
# The MQTT messages of ESP32 devices

`devices-mqtt.service`: what the hub does with the messages that an ESP32 device sends. A
pair request adds the device that has its IP address, or updates the one that is stored
already, and is answered. A controls sync and a measurements update name their fields and
values as the device does, and they are translated before the update.

A message that fails leaves its error in a log or in the reply, so a handler returns no
error.
-/

namespace MyHomeHub.DevicesMqttService

open JavaScript Mapper ConfigsValidator ControlService DeviceSchema DevicesService

/-! ## Messages -/

/-- `MqttPairRequestDto` -/
structure MqttPairRequestDto where
  deviceIp : Optional String
  deviceName : Optional String
  deviceType : Optional DeviceType
  updateInterval : Optional Number := .undefined
  controls : Optional DevicePayload := .undefined
  measurements : Optional DevicePayload := .undefined

/-- `ESP32_DEVICE_MEASUREMENTS_DEFAULT_UPDATE_INTERVAL` -/
def esp32DeviceMeasurementsDefaultUpdateInterval : Number :=
  .finite (1000 * 60 * 5)

/-- `toCreateDevice` -/
def MqttPairRequestDto.toCreateDevice (request : MqttPairRequestDto) : CreateDeviceDto where
  name := some request.deviceName
  type := some request.deviceType
  brand := some (.value .esp32)
  updateInterval := some
    (.value (request.updateInterval.getD esp32DeviceMeasurementsDefaultUpdateInterval))
  ip := some request.deviceIp
  transportProtocol := some (.value .mqtt)
  controls := some (some (request.controls.getD ∅))
  measurements := some (some (request.measurements.getD ∅))

/-- A payload under a key of an `UpdateDeviceDto`. The constructor copies a key that holds
undefined, too, and undefined is merged with the same error as null. -/
def assignedKey (payload : Optional DevicePayload) : Option (Option DevicePayload) :=
  some payload.toOption

/-- The `UpdateDeviceDto` for a device that pairs again. -/
def MqttPairRequestDto.toUpdateDevice (request : MqttPairRequestDto) : UpdateDeviceDto where
  controls := assignedKey request.controls
  measurements := assignedKey request.measurements

/-- `PairAcceptDto`, by the static function that builds it. The message of a rejection is
`Device pairing has been rejected: ${error}`. -/
inductive PairAcceptDto where
  | accept (deviceId : String) (controls : DevicePayload) (updateInterval : Optional Number)
  | reject (error : HubError)

/-- The stored devices after a message, what the hub did, and what it replied. -/
structure MqttOutcome where
  devices : DeviceStore
  effects : List DeviceEffect
  reply : Option PairAcceptDto

/-! ## Handlers -/

/-- `getDeviceByIp` -/
def findByIp (devices : DeviceStore) (ip : String) : Option Device :=
  devices.docs.find? fun device => device.ip = .value ip

/-- `pairEsp32Device`: the reply for a device. -/
def pairEsp32Device (device : Device) : PairAcceptDto :=
  .accept device.externalId (stripEmptyValues device.controls) device.updateInterval

/-- The options of an update by a device. -/
def deviceUpdate (propagateControls : Bool) : UpdateDeviceOptions :=
  { propagateControls, origin := some .device }

section

variable [ExternalCalls]

/-- The update of a device that pairs again. -/
def repair (hub : Hub) (request : MqttPairRequestDto) (device : Device) : Outcome :=
  updateDevice hub device.externalId request.toUpdateDevice (deviceUpdate false)

/-- `handleEsp32DevicePairRequest`. The reply to a device that is stored already is built from the
document that was loaded before the update. A new device gets the external id. -/
def handleEsp32DevicePairRequest (hub : Hub) (externalId : String)
    (request : MqttPairRequestDto) : MqttOutcome :=
  if !request.deviceIp.isNonEmpty || !request.deviceName.isNonEmpty then
    ⟨hub.devices, [], none⟩
  else
    match findByIp hub.devices (request.deviceIp.getD "") with
    | none =>
        let added := addDevice hub externalId request.toCreateDevice (some .device)
        ⟨added.devices, added.effects, some (match added.result with
          | .ok device => pairEsp32Device device
          | .error error => .reject error)⟩
    | some device =>
        let updated := repair hub request device
        ⟨updated.devices, updated.effects, some (match updated.result with
          | .ok _ => pairEsp32Device device
          | .error error => .reject error)⟩

/-- A message about one section of a device: it is translated and updates the device. Without a
payload it fails, which is logged. -/
def handleSection (hub : Hub) (deviceId : String) (payloadSection : DeviceConfigSection)
    (payload : Optional DevicePayload) (update : DevicePayload → UpdateDeviceDto)
    (propagateControls : Bool) : MqttOutcome :=
  match findByExternalId hub.devices deviceId, payload with
  | some device, .value payload =>
      let config := getConfig hub.configs device.configKey
      let updated := updateDevice hub deviceId
        (update (mapPayloadFromDevice config payloadSection payload))
        (deviceUpdate propagateControls)
      ⟨updated.devices, updated.effects, none⟩
  | _, _ => ⟨hub.devices, [], none⟩

/-- `handleEsp32DeviceControlsSync` -/
def handleEsp32DeviceControlsSync (hub : Hub) (deviceId : String)
    (controls : Optional DevicePayload) : MqttOutcome :=
  handleSection hub deviceId .controls controls
    (fun controls => { controls := some (some controls) }) false

/-- `handleEsp32DeviceMeasurementsUpdate` -/
def handleEsp32DeviceMeasurementsUpdate (hub : Hub) (deviceId : String)
    (measurements : Optional DevicePayload) : MqttOutcome :=
  handleSection hub deviceId .measurements measurements
    (fun measurements => { measurements := some (some measurements) }) true

/-! ## Pair requests that omit a section -/

/-- A section of a device after a pair request: merged if the request has it, unchanged if not. -/
def KeepsOrMerges (configs : List DeviceConfig) (key : DeviceKey)
    (payloadSection : DeviceConfigSection) (dto : Except HubError PayloadDto)
    (payload : Optional DevicePayload) (before after : DevicePayload) : Prop :=
  match payload with
  | .value payload => ∃ controlsDto result, dto = .ok controlsDto ∧
      mergeValidate configs key payloadSection controlsDto payload (fun _ => before) .sanitize =
        .ok result ∧
      Object.SameFields after result.merged
  | _ => Object.SameFields after before

/-- A stored device is paired again: the reply accepts it, and the sections of the request are
merged into those of the device. -/
structure PairsAgain (hub : Hub) (externalId : String) (request : MqttPairRequestDto)
    (device : Device) : Prop where
  reply : ∃ deviceId controls updateInterval,
    (handleEsp32DevicePairRequest hub externalId request).reply =
      some (.accept deviceId controls updateInterval)
  stored : ∃ stored, findByExternalId
      (handleEsp32DevicePairRequest hub externalId request).devices device.externalId =
        some stored ∧
    KeepsOrMerges hub.configs device.configKey .controls (getControlService device)
      request.controls device.controls stored.controls ∧
    KeepsOrMerges hub.configs device.configKey .measurements (.ok devicePayloadDto)
      request.measurements device.measurements stored.measurements

/-- The request has an IP address and a name, and the address is that of a stored device. -/
structure PairsStored (hub : Hub) (request : MqttPairRequestDto) (device : Device) : Prop where
  ip : request.deviceIp.isNonEmpty = true
  name : request.deviceName.isNonEmpty = true
  device : findByIp hub.devices (request.deviceIp.getD "") = some device

variable {hub : Hub} {externalId : String} {request : MqttPairRequestDto} {device : Device}

/-- A stored device that pairs again is updated, and the reply follows the update. -/
theorem pair_request_stored (h : PairsStored hub request device) :
    handleEsp32DevicePairRequest hub externalId request =
      ⟨(repair hub request device).devices, (repair hub request device).effects,
        some (match (repair hub request device).result with
          | .ok _ => pairEsp32Device device
          | .error error => .reject error)⟩ := by
  rw [handleEsp32DevicePairRequest, h.ip, h.name, if_neg (by decide), h.device]

omit [ExternalCalls] in
/-- The update finds the device that was found by its IP address. -/
theorem find_paired (h : PairsStored hub request device) :
    findByExternalId hub.devices device.externalId = some device :=
  find_by_external_id_iff.mpr ⟨List.mem_of_find?_eq_some h.device, rfl⟩

/-- An omitted section is merged like one that is given, and the merge reads it. -/
theorem prepare_omitted
    (homitted : request.controls = .undefined ∨ request.measurements = .undefined)
    {assigned : AssignedDevice} :
    prepareUpdate hub.configs device request.toUpdateDevice (some .device) ≠ .ok assigned := by
  intro h
  obtain ⟨base, hbase, -⟩ := prepare_update_ok h
  obtain ⟨controls, measurements, hcontrols, hmeasurements, -⟩ := assign_payloads_ok hbase
  simp only [MqttPairRequestDto.toUpdateDevice] at hcontrols hmeasurements
  rcases homitted with homitted | homitted
  · rw [homitted] at hcontrols
    rcases assign_payload_ok hcontrols with ⟨hnone, -⟩ | ⟨payload, -, -, hsome, -⟩
    · cases hnone
    · cases hsome
  · rw [homitted] at hmeasurements
    rcases assign_payload_ok hmeasurements with ⟨hnone, -⟩ | ⟨payload, -, -, hsome, -⟩
    · cases hnone
    · cases hsome

/-- A pair request of a stored device that omits a section is rejected, and nothing is stored. -/
theorem pair_request_omitted (externalId : String) (h : PairsStored hub request device)
    (homitted : request.controls = .undefined ∨ request.measurements = .undefined) :
    ∃ error, handleEsp32DevicePairRequest hub externalId request =
      ⟨hub.devices, [], some (.reject error)⟩ := by
  cases hprepare : prepareUpdate hub.configs device request.toUpdateDevice (some .device) with
  | ok assigned => exact absurd hprepare (prepare_omitted homitted)
  | error error =>
    have hrepair : repair hub request device = ⟨hub.devices, [], .error error⟩ := by
      rw [repair, updateDevice, find_paired h]
      simp only [deviceUpdate, hprepare]
    exact ⟨error, by rw [pair_request_stored h, hrepair]⟩

/-- A pair request that omits a section never pairs a stored device again. -/
theorem omitting_request_never_pairs (hub : Hub) (externalId : String)
    (request : MqttPairRequestDto) (device : Device) (h : PairsStored hub request device)
    (homitted : request.controls = .undefined ∨ request.measurements = .undefined) :
    ¬ PairsAgain hub externalId request device := by
  intro hpairs
  obtain ⟨error, hrejected⟩ := pair_request_omitted externalId h homitted
  obtain ⟨deviceId, controls, updateInterval, haccepted⟩ := hpairs.reply
  rw [hrejected] at haccepted
  cases haccepted

end

/-- A paired lamp. -/
def pairedLamp : Device where
  externalId := "lamp"
  name := .value "lamp"
  type := .value .led
  brand := .value .esp32
  transportProtocol := .value .mqtt
  ip := .value "192.168.0.7"
  updateInterval := .value (.finite 300000)

/-- A hub that stores the lamp, without device configs. -/
def lampHub : Hub where
  devices := ⟨[pairedLamp], List.pairwise_singleton _ _⟩
  configs := []

/-- The lamp pairs again after a restart. It measures nothing, and sends no measurements. -/
def restartedLamp : MqttPairRequestDto where
  deviceIp := .value "192.168.0.7"
  deviceName := .value "lamp"
  deviceType := .value .led
  controls := .value ⟨[⟨"on", .bool true⟩], List.nodupKeys_singleton _⟩

theorem pairs_restarted_lamp : PairsStored lampHub restartedLamp pairedLamp :=
  ⟨by decide +kernel, by decide +kernel, rfl⟩

theorem omitting_request_never_pairs_lamp :
    PairsStored lampHub restartedLamp pairedLamp ∧ restartedLamp.measurements = .undefined ∧
      ¬ @PairsAgain .unused lampHub "new" restartedLamp pairedLamp :=
  ⟨pairs_restarted_lamp, rfl, @omitting_request_never_pairs .unused lampHub "new" restartedLamp
    pairedLamp pairs_restarted_lamp (.inr rfl)⟩

/-- The restarted lamp is rejected, because it sends no measurements. -/
theorem restarted_lamp_rejected :
    ¬ ∀ (hub : Hub) (externalId : String) (request : MqttPairRequestDto) (device : Device),
      PairsStored hub request device →
        (request.controls = .undefined ∨ request.measurements = .undefined) →
          @PairsAgain .unused hub externalId request device := by
  intro hall
  obtain ⟨deviceId, controls, updateInterval, haccepted⟩ :=
    @PairsAgain.reply .unused _ _ _ _
      (hall lampHub "new" restartedLamp pairedLamp pairs_restarted_lamp (.inr rfl))
  obtain ⟨error, hrejected⟩ :=
    @pair_request_omitted .unused lampHub restartedLamp pairedLamp "new" pairs_restarted_lamp
      (.inr rfl)
  rw [hrejected] at haccepted
  cases haccepted

end MyHomeHub.DevicesMqttService
