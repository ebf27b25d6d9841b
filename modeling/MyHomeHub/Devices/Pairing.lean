import MyHomeHub.Devices.MqttService
import MyHomeHub.Devices.SectionChanges

/-!
# Pairing again and syncing

A stored ESP32 device can report its controls and measurements in a pair request, or in a
controls sync and a measurements update. The sync and the update translate the names and
values of the device by its config, and the pair request does not. `pairing_agrees_iff` says
when the device is stored alike.
-/

namespace MyHomeHub.DevicesMqttService

open JavaScript Mapper ConfigsValidator ControlService DeviceSchema DevicesService Library

/-! ## Updates of payloads -/

/-- A stored device can be saved with other payloads. -/
def Resavable (devices : DeviceStore) (device : Device) : Prop :=
  Storable devices device (dropScopedDependencyFields (some device) device)

variable {hub : Hub} {devices devices' : DeviceStore} {device saved : Device}
  {controls measurements : DevicePayload}

/-- A field that was not written and does not apply is dropped, and then there is nothing left to
drop. -/
theorem drop_again (hsaved : saved =
      dropScopedDependencyFields (some device) { device with controls, measurements }) :
    dropScopedDependencyFields (some (writeModified device saved device))
      (writeModified device saved device) = writeModified device saved device := by
  subst hsaved
  simp only [dropScopedDependencyFields, writeModified, written_field_same, isDirectModified,
    isTuyaDevice, isZigbeeDevice, ne_eq, not_true, decide_false, Bool.not_false, Bool.and_true,
    Device.mk.injEq, true_and, and_true]
  refine ⟨?_, ?_, ?_, ?_⟩
  · split <;> rfl
  · split <;> rfl
  · split <;> rfl
  · split <;> rfl

/-- A device that was saved with other payloads can be saved again. -/
theorem resavable_after_save (hdevice : device ∈ devices)
    (h : save devices device { device with controls, measurements } = .ok (devices', saved)) :
    Resavable devices' (writeModified device saved device) := by
  have hstorable := (save_ok_iff hdevice).mp ⟨_, h⟩
  obtain ⟨hsaved, hvalid, hmem⟩ := save_ok hdevice h
  have hother : ∀ other ∈ devices',
      other.externalId ≠ (writeModified device saved device).externalId → other ∈ devices ∧
        other.externalId ≠ device.externalId := by
    intro other hother hne
    rcases (hmem other).mp hother with rfl | hkept
    · exact absurd rfl hne
    · exact hkept
  rw [Resavable, drop_again hsaved]
  rw [← hsaved] at hstorable
  refine ⟨?_, fun other hdevices hne => ?_, fun other hdevices hne => ?_⟩
  · simpa only [invalidPaths, writeModified, written_field_same, isTuyaDevice, isZigbeeDevice]
      using hvalid
  · simp only [writeModified, written_field_same]
    exact hstorable.name other (hother other hdevices hne).1 (hother other hdevices hne).2
  · simp only [writeModified, written_field_same]
    exact hstorable.zigbeeFriendlyName other (hother other hdevices hne).1
      (hother other hdevices hne).2

section

variable [ExternalCalls]

/-- A section takes the payload of an update, if the update has one. -/
def TakesUpdate (configs : List DeviceConfig) (key : DeviceKey)
    (payloadSection : DeviceConfigSection) (dto : PayloadDto) (incoming : Option DevicePayload)
    (stored : DevicePayload) : Prop :=
  ∀ payload, incoming = some payload → TakesPayload configs key payloadSection dto payload stored

/-- A section with the payload of an update that it takes. -/
def updatedSection (configs : List DeviceConfig) (key : DeviceKey)
    (payloadSection : DeviceConfigSection) (incoming : Option DevicePayload)
    (stored : DevicePayload) : String → Option Value :=
  match incoming with
  | none => stored.lookup
  | some payload => (sectionChange configs key payloadSection payload).onto stored.lookup

/-- An update of payloads only. -/
def payloadsUpdate (controls measurements : Option DevicePayload) : UpdateDeviceDto where
  controls := controls.map some
  measurements := measurements.map some

variable {configs : List DeviceConfig} {payloadSection : DeviceConfigSection}
  {controlsDto : PayloadDto} {incoming : Option DevicePayload} {stored : DevicePayload}
  {toDto : PayloadDto → PayloadDto} {key : DeviceKey} {dto : PayloadDto}

theorem takes_update_some_iff {payload : DevicePayload} :
    TakesUpdate configs key payloadSection dto (some payload) stored ↔
      TakesPayload configs key payloadSection dto payload stored := by
  constructor
  · exact fun h => h payload rfl
  · intro h other hother
    cases hother
    exact h

theorem takes_update_none : TakesUpdate configs key payloadSection dto none stored := by
  intro payload hpayload
  cases hpayload

/-- A payload can be assigned exactly when its section takes it. -/
theorem assign_payload_returns_iff (hservice : getControlService device = .ok controlsDto) :
    (∃ result, assignPayload configs device payloadSection toDto (incoming.map some)
      (fun _ => stored) .sanitize = .ok result) ↔
      TakesUpdate configs device.configKey payloadSection (toDto controlsDto) incoming stored := by
  cases incoming with
  | none => exact iff_of_true ⟨none, rfl⟩ takes_update_none
  | some payload =>
      rw [takes_update_some_iff, ← merge_returns_iff]
      constructor
      · intro h
        obtain ⟨result, hresult⟩ := h
        rcases assign_payload_ok hresult with
          ⟨hnone, -⟩ | ⟨other, dto, merged, hother, hdto, hmerged, -⟩
        · cases hnone
        · cases hother
          rw [hservice] at hdto
          cases hdto
          exact ⟨merged, hmerged⟩
      · intro h
        obtain ⟨merged, hmerged⟩ := h
        exact ⟨some merged, bind_ok_iff.mpr ⟨controlsDto, hservice, bind_ok_iff.mpr
          ⟨merged, hmerged, rfl⟩⟩⟩

/-- What a section holds after its payload was assigned. -/
theorem lookup_assigned {result : Option MergedPayload}
    (h : assignPayload configs device payloadSection toDto (incoming.map some)
      (fun _ => stored) .sanitize = .ok result) (name : String) :
    ((result.map (·.merged)).getD stored).lookup name =
      updatedSection configs device.configKey payloadSection incoming stored name := by
  rcases assign_payload_ok h with ⟨hnone, rfl⟩ | ⟨payload, dto, merged, hsome, -, hmerged, rfl⟩
  · rw [Option.map_eq_none_iff] at hnone
    subst hnone
    rfl
  · obtain ⟨other, rfl, hother⟩ := Option.map_eq_some_iff.mp hsome
    cases hother
    exact lookup_of_merge hmerged name

variable {externalId : String} {options : UpdateDeviceOptions}
  {newControls newMeasurements : Option DevicePayload}

/-- Both sections take the payloads of an update by a device. -/
def TakesBoth (configs : List DeviceConfig) (device : Device) (controlsDto : PayloadDto)
    (controls measurements : Option DevicePayload) : Prop :=
  TakesUpdate configs device.configKey .controls controlsDto controls device.controls ∧
    TakesUpdate configs device.configKey .measurements devicePayloadDto measurements
      device.measurements

/-- An update of payloads prepares a document exactly when both sections take them. -/
theorem prepare_payloads_iff (hservice : getControlService device = .ok controlsDto) :
    (∃ assigned, prepareUpdate configs device (payloadsUpdate newControls newMeasurements)
      (some .device) = .ok assigned) ↔
      TakesBoth configs device controlsDto newControls newMeasurements := by
  have hcontrols : (∃ result, assignPayload configs device .controls id (newControls.map some)
      (fun _ => device.controls) .sanitize = .ok result) ↔
      TakesUpdate configs device.configKey .controls controlsDto newControls device.controls :=
    assign_payload_returns_iff hservice
  have hmeasurements : (∃ result, assignPayload configs device .measurements
      (fun _ => devicePayloadDto) (newMeasurements.map some) (fun _ => device.measurements)
        .sanitize = .ok result) ↔
      TakesUpdate configs device.configKey .measurements devicePayloadDto newMeasurements
        device.measurements :=
    assign_payload_returns_iff hservice
  rw [TakesBoth, ← hcontrols, ← hmeasurements]
  constructor
  · intro h
    obtain ⟨assigned, hassigned⟩ := h
    obtain ⟨base, hbase, -⟩ := prepare_update_ok hassigned
    obtain ⟨controls, measurements, hcontrols, hmeasurements, -⟩ := assign_payloads_ok hbase
    exact ⟨⟨controls, hcontrols⟩, measurements, hmeasurements⟩
  · intro h
    obtain ⟨⟨controls, hcontrols⟩, measurements, hmeasurements⟩ := h
    exact ⟨_, bind_ok_iff.mpr ⟨_, bind_ok_iff.mpr ⟨controls, hcontrols, bind_ok_iff.mpr
      ⟨measurements, hmeasurements, rfl⟩⟩, rfl⟩⟩

/-- A device after an update of payloads: they are laid over its sections if both take them, and
nothing has changed if not. -/
structure HasPayloads (configs : List DeviceConfig) (device : Device) (controlsDto : PayloadDto)
    (newControls newMeasurements : Option DevicePayload) (stored : Device) : Prop where
  key : stored.configKey = device.configKey
  taken : TakesBoth configs device controlsDto newControls newMeasurements →
    (∀ name, stored.controls.lookup name =
      updatedSection configs device.configKey .controls newControls device.controls name) ∧
    ∀ name, stored.measurements.lookup name =
      updatedSection configs device.configKey .measurements newMeasurements device.measurements name
  refused : ¬ TakesBoth configs device controlsDto newControls newMeasurements → stored = device

/-- After an update of payloads the device is stored with them, and it can be saved again. -/
def StoresPayloads (configs : List DeviceConfig) (device : Device) (controlsDto : PayloadDto)
    (newControls newMeasurements : Option DevicePayload) (devices : DeviceStore)
    (externalId : String) : Prop :=
  ∃ stored, findByExternalId devices externalId = some stored ∧ Resavable devices stored ∧
    HasPayloads configs device controlsDto newControls newMeasurements stored

/-- An update of payloads that are taken stores them. -/
theorem stored_of_taken (hdevice : findByExternalId hub.devices externalId = some device)
    (hservice : getControlService device = .ok controlsDto)
    (hresavable : Resavable hub.devices device) (horigin : options.origin = some .device)
    (htakes : TakesBoth hub.configs device controlsDto newControls newMeasurements) :
    StoresPayloads hub.configs device controlsDto newControls newMeasurements
      (updateDevice hub externalId (payloadsUpdate newControls newMeasurements) options).devices
      externalId := by
  obtain ⟨assigned, hprepare⟩ := (prepare_payloads_iff hservice).mpr htakes
  rw [← horigin] at hprepare
  obtain ⟨⟨devices', saved⟩, hsave⟩ := (save_prepared_iff hdevice hprepare).mpr hresavable
  have hdevices : (updateDevice hub externalId (payloadsUpdate newControls newMeasurements)
      options).devices = devices' := by
    simp only [updateDevice, hdevice, hprepare, hsave]
  obtain ⟨hmem, rfl⟩ := find_by_external_id_iff.mp hdevice
  obtain ⟨base, hbase, hassigned⟩ := prepare_update_ok hprepare
  obtain ⟨controls, measurements, hcontrols, hmeasurements, rfl⟩ := assign_payloads_ok hbase
  rw [horigin] at hcontrols hmeasurements
  rw [hassigned] at hsave
  obtain ⟨hsaved, -, -⟩ := save_ok hmem hsave
  obtain ⟨hkey, hsameControls, hsameMeasurements⟩ := write_modified_same device saved
  rw [hdevices]
  refine ⟨_, find_after_save hmem hsave, resavable_after_save hmem hsave, ?_,
    fun _ => ⟨fun name => ?_, fun name => ?_⟩, fun hrefused => absurd htakes hrefused⟩
  · rw [hkey, hsaved]
    rfl
  · rw [hsameControls name, hsaved]
    exact lookup_assigned hcontrols name
  · rw [hsameMeasurements name, hsaved]
    exact lookup_assigned hmeasurements name

/-- An update of payloads that are refused stores nothing. -/
theorem devices_of_refused (hdevice : findByExternalId hub.devices externalId = some device)
    (hservice : getControlService device = .ok controlsDto)
    (horigin : options.origin = some .device)
    (hrefused : ¬ TakesBoth hub.configs device controlsDto newControls newMeasurements) :
    (updateDevice hub externalId (payloadsUpdate newControls newMeasurements) options).devices =
      hub.devices := by
  rcases update_device_cases hub externalId (payloadsUpdate newControls newMeasurements) options
    with ⟨hdevices, -⟩ | ⟨found, assigned, hfound, hprepare, -⟩
  · exact hdevices
  · rw [hdevice, Option.some.injEq] at hfound
    subst hfound
    rw [horigin] at hprepare
    exact absurd ((prepare_payloads_iff hservice).mp ⟨assigned, hprepare⟩) hrefused

/-- A device that cannot be saved is not updated. -/
theorem devices_of_not_resavable (hdevice : findByExternalId hub.devices externalId = some device)
    (hresavable : ¬ Resavable hub.devices device) :
    (updateDevice hub externalId (payloadsUpdate newControls newMeasurements) options).devices =
      hub.devices := by
  rcases update_device_cases hub externalId (payloadsUpdate newControls newMeasurements) options
    with ⟨hdevices, -⟩ | ⟨found, assigned, hfound, hprepare, -, hsame | ⟨saved, hsave⟩⟩
  · exact hdevices
  · exact hsame
  · rw [hdevice, Option.some.injEq] at hfound
    subst hfound
    exact absurd ((save_prepared_iff hdevice hprepare).mp ⟨_, hsave⟩) hresavable

/-- What an update of payloads leaves of a device that can be saved. -/
theorem stored_of_payloads (hdevice : findByExternalId hub.devices externalId = some device)
    (hservice : getControlService device = .ok controlsDto)
    (hresavable : Resavable hub.devices device) (horigin : options.origin = some .device) :
    StoresPayloads hub.configs device controlsDto newControls newMeasurements
      (updateDevice hub externalId (payloadsUpdate newControls newMeasurements) options).devices
      externalId := by
  by_cases htakes : TakesBoth hub.configs device controlsDto newControls newMeasurements
  · exact stored_of_taken hdevice hservice hresavable horigin htakes
  · rw [devices_of_refused hdevice hservice horigin htakes]
    exact ⟨device, hdevice, hresavable, rfl, fun h => absurd h htakes, fun _ => rfl⟩

/-! ## Two ways to report -/

/-- The stored devices after a controls sync and a measurements update. -/
def syncAndUpdate (hub : Hub) (deviceId : String) (controls measurements : DevicePayload) :
    DeviceStore :=
  let synced := handleEsp32DeviceControlsSync hub deviceId (.value controls)
  (handleEsp32DeviceMeasurementsUpdate { hub with devices := synced.devices } deviceId
    (.value measurements)).devices

/-- A device is stored with the same controls and measurements in two collections. -/
def StoredAlike (devices devices' : DeviceStore) (externalId : String) : Prop :=
  ∃ one other, findByExternalId devices externalId = some one ∧
    findByExternalId devices' externalId = some other ∧
    Object.SameFields one.controls other.controls ∧
    Object.SameFields one.measurements other.measurements

/-- The translation of a payload that a device sends. -/
def fromDevice (configs : List DeviceConfig) (device : Device)
    (payloadSection : DeviceConfigSection) (payload : DevicePayload) : DevicePayload :=
  mapPayloadFromDevice (getConfig configs device.configKey) payloadSection payload

omit [ExternalCalls] in
theorem stored_alike_iff {externalId : String} {one other : Device}
    (hone : findByExternalId devices externalId = some one)
    (hother : findByExternalId devices' externalId = some other) :
    StoredAlike devices devices' externalId ↔ Object.SameFields one.controls other.controls ∧
      Object.SameFields one.measurements other.measurements := by
  constructor
  · intro h
    obtain ⟨one', other', hone', hother', hsame⟩ := h
    rw [hone, Option.some.injEq] at hone'
    rw [hother, Option.some.injEq] at hother'
    rwa [hone', hother']
  · exact fun hsame => ⟨one, other, hone, hother, hsame⟩

/-- A payload does the same to a section as it is sent by a pair request, which is accepted or not,
and as it is translated by a message of its own. -/
structure EntersAlike (configs : List DeviceConfig) (key : DeviceKey)
    (payloadSection : DeviceConfigSection) (dto : PayloadDto) (accepted : Prop)
    (sent translated stored : DevicePayload) : Prop where
  both : accepted → TakesPayload configs key payloadSection dto translated stored →
    (sectionChange configs key payloadSection sent).Alike
      (sectionChange configs key payloadSection translated) stored.lookup
  sent : accepted → ¬ TakesPayload configs key payloadSection dto translated stored →
    (sectionChange configs key payloadSection sent).Leaves stored.lookup
  translated : ¬ accepted → TakesPayload configs key payloadSection dto translated stored →
    (sectionChange configs key payloadSection translated).Leaves stored.lookup

/-- A pair request, which is accepted if both sections take what the device sends, does the same to
each of them as the message of the section. -/
structure ReportsAlike (configs : List DeviceConfig) (device : Device)
    (sentControls sentMeasurements : DevicePayload) : Prop where
  controls : EntersAlike configs device.configKey .controls (controlsDtoType .esp32 device.type)
    (TakesBoth configs device (controlsDtoType .esp32 device.type) (some sentControls)
      (some sentMeasurements)) sentControls
    (fromDevice configs device .controls sentControls) device.controls
  measurements : EntersAlike configs device.configKey .measurements devicePayloadDto
    (TakesBoth configs device (controlsDtoType .esp32 device.type) (some sentControls)
      (some sentMeasurements)) sentMeasurements
    (fromDevice configs device .measurements sentMeasurements) device.measurements

/-- A section holds a change laid over what it held if it took the payload, and what it held if
not. -/
structure LaidOver (takes : Prop) (change : Change String Value)
    (base : String → Option Value) (after : DevicePayload) : Prop where
  taken : takes → ∀ name, after.lookup name = change.onto base name
  refused : ¬ takes → ∀ name, after.lookup name = base name

variable {accepted : Prop} {sent translated one other : DevicePayload}

omit [ExternalCalls] in
theorem LaidOver.congr {takes takes' : Prop} {change : Change String Value}
    {base base' : String → Option Value} (h : LaidOver takes change base one)
    (htakes : takes' ↔ takes) (hbase : ∀ name, base' name = base name)
    (hafter : Object.SameFields other one) : LaidOver takes' change base' other := by
  have hbases : base' = base := funext hbase
  refine ⟨fun htaken name => ?_, fun hrefused name => ?_⟩
  · rw [hafter name, hbases, h.taken (htakes.mp htaken)]
  · rw [hafter name, hbases, h.refused (mt htakes.mpr hrefused)]

/-- A payload that is accepted enters its section alike if its translation is itself. -/
theorem enters_alike_of_same (haccepted : accepted)
    (htakes : TakesPayload configs key payloadSection dto sent stored) (hsame : translated = sent) :
    EntersAlike configs key payloadSection dto accepted sent translated stored := by
  subst hsame
  exact ⟨fun _ _ => Change.onto_eq_iff.mp rfl, fun _ hrefused => absurd htakes hrefused,
    fun hrejected => absurd haccepted hrejected⟩

/-- Both ways leave the same section exactly when the payload enters it alike. -/
theorem same_section_iff
    (hone : LaidOver accepted (sectionChange configs key payloadSection sent) stored.lookup one)
    (hother : LaidOver (TakesPayload configs key payloadSection dto translated stored)
      (sectionChange configs key payloadSection translated) stored.lookup other) :
    Object.SameFields one other ↔
      EntersAlike configs key payloadSection dto accepted sent translated stored := by
  constructor
  · intro hsame
    refine ⟨fun haccepted htakes => ?_, fun haccepted hrefused => ?_, fun hrejected htakes => ?_⟩
    · rw [← Change.onto_eq_iff]
      funext name
      rw [← hone.taken haccepted, ← hother.taken htakes]
      exact hsame name
    · rw [← Change.onto_eq_base_iff]
      funext name
      rw [← hone.taken haccepted, hsame name, hother.refused hrefused]
    · rw [← Change.onto_eq_base_iff]
      funext name
      rw [← hother.taken htakes, ← hsame name, hone.refused hrejected]
  · intro henters name
    by_cases haccepted : accepted
    · rw [hone.taken haccepted]
      by_cases htakes : TakesPayload configs key payloadSection dto translated stored
      · rw [hother.taken htakes, Change.onto_eq_iff.mpr (henters.both haccepted htakes)]
      · rw [hother.refused htakes, Change.onto_eq_base_iff.mpr (henters.sent haccepted htakes)]
    · rw [hone.refused haccepted]
      by_cases htakes : TakesPayload configs key payloadSection dto translated stored
      · rw [hother.taken htakes,
          Change.onto_eq_base_iff.mpr (henters.translated haccepted htakes)]
      · rw [hother.refused htakes]

/-! ### The messages -/

theorem controls_sync_devices (hdevice : findByExternalId hub.devices externalId = some device) :
    (handleEsp32DeviceControlsSync hub externalId (.value controls)).devices =
      (updateDevice hub externalId (payloadsUpdate
        (some (fromDevice hub.configs device .controls controls)) none)
        (deviceUpdate false)).devices := by
  simp only [handleEsp32DeviceControlsSync, handleSection, hdevice]
  rfl

theorem measurements_update_devices
    (hdevice : findByExternalId hub.devices externalId = some device) :
    (handleEsp32DeviceMeasurementsUpdate hub externalId (.value measurements)).devices =
      (updateDevice hub externalId (payloadsUpdate none
        (some (fromDevice hub.configs device .measurements measurements)))
        (deviceUpdate true)).devices := by
  simp only [handleEsp32DeviceMeasurementsUpdate, handleSection, hdevice]
  rfl

omit [ExternalCalls] in
theorem to_update_device_eq {request : MqttPairRequestDto}
    (hcontrols : request.controls = .value controls)
    (hmeasurements : request.measurements = .value measurements) :
    request.toUpdateDevice = payloadsUpdate (some controls) (some measurements) := by
  rw [MqttPairRequestDto.toUpdateDevice, hcontrols, hmeasurements]
  rfl

/-- Only what a section holds matters, not the order of its entries. -/
theorem takes_payload_congr {payload : DevicePayload} (h : Object.SameFields one other) :
    TakesPayload configs key payloadSection dto payload one ↔
      TakesPayload configs key payloadSection dto payload other := by
  have hlookup : (fun name => one.lookup name) = fun name => other.lookup name := funext h
  constructor
  · intro htakes
    exact ⟨htakes.entries, hlookup ▸ htakes.properties⟩
  · intro htakes
    exact ⟨htakes.entries, hlookup ▸ htakes.properties⟩

theorem takes_both_controls_iff :
    TakesBoth configs device controlsDto (some controls) none ↔
      TakesPayload configs device.configKey .controls controlsDto controls device.controls := by
  rw [TakesBoth, takes_update_some_iff, and_iff_left takes_update_none]

theorem takes_both_measurements_iff :
    TakesBoth configs device controlsDto none (some measurements) ↔
      TakesPayload configs device.configKey .measurements devicePayloadDto measurements
        device.measurements := by
  rw [TakesBoth, takes_update_some_iff, and_iff_right takes_update_none]

variable {updated : Device}

/-- The controls after an update that has some. -/
theorem HasPayloads.controls_laid_over
    (h : HasPayloads configs device controlsDto (some controls) newMeasurements updated) :
    LaidOver (TakesBoth configs device controlsDto (some controls) newMeasurements)
      (sectionChange configs device.configKey .controls controls) device.controls.lookup
      updated.controls :=
  ⟨fun htakes => (h.taken htakes).1, fun hrefused name => by rw [h.refused hrefused]⟩

/-- The measurements after an update that has some. -/
theorem HasPayloads.measurements_laid_over
    (h : HasPayloads configs device controlsDto newControls (some measurements) updated) :
    LaidOver (TakesBoth configs device controlsDto newControls (some measurements))
      (sectionChange configs device.configKey .measurements measurements)
      device.measurements.lookup updated.measurements :=
  ⟨fun htakes => (h.taken htakes).2, fun hrefused name => by rw [h.refused hrefused]⟩

/-- An update without controls keeps them. -/
theorem HasPayloads.controls_kept
    (h : HasPayloads configs device controlsDto none newMeasurements updated) :
    Object.SameFields updated.controls device.controls := by
  by_cases htakes : TakesBoth configs device controlsDto none newMeasurements
  · exact (h.taken htakes).1
  · rw [h.refused htakes]
    exact fun _ => rfl

/-- An update without measurements keeps them. -/
theorem HasPayloads.measurements_kept
    (h : HasPayloads configs device controlsDto newControls none updated) :
    Object.SameFields updated.measurements device.measurements := by
  by_cases htakes : TakesBoth configs device controlsDto newControls none
  · exact (h.taken htakes).2
  · rw [h.refused htakes]
    exact fun _ => rfl

/-- The control service of an ESP32 device. -/
theorem get_control_service_esp32 (hbrand : device.brand = .value .esp32) :
    getControlService device = .ok (controlsDtoType .esp32 device.type) := by
  rw [getControlService, hbrand]

/-- A device after a controls sync and a measurements update: each section has the translated
payload laid over it, if it takes it. -/
structure HasReports (configs : List DeviceConfig) (device : Device)
    (controls measurements : DevicePayload) (updated : Device) : Prop where
  controls : LaidOver
    (TakesPayload configs device.configKey .controls (controlsDtoType .esp32 device.type)
      (fromDevice configs device .controls controls) device.controls)
    (sectionChange configs device.configKey .controls
      (fromDevice configs device .controls controls))
    device.controls.lookup updated.controls
  measurements : LaidOver
    (TakesPayload configs device.configKey .measurements devicePayloadDto
      (fromDevice configs device .measurements measurements) device.measurements)
    (sectionChange configs device.configKey .measurements
      (fromDevice configs device .measurements measurements))
    device.measurements.lookup updated.measurements

theorem stored_of_controls_sync
    (hdevice : findByExternalId hub.devices externalId = some device)
    (hservice : getControlService device = .ok controlsDto)
    (hresavable : Resavable hub.devices device) :
    StoresPayloads hub.configs device controlsDto
      (some (fromDevice hub.configs device .controls controls)) none
      (handleEsp32DeviceControlsSync hub externalId (.value controls)).devices externalId := by
  rw [controls_sync_devices hdevice]
  exact stored_of_payloads hdevice hservice hresavable rfl

theorem stored_of_measurements_update (hub : Hub)
    (hdevice : findByExternalId hub.devices externalId = some device)
    (hservice : getControlService device = .ok controlsDto)
    (hresavable : Resavable hub.devices device) :
    StoresPayloads hub.configs device controlsDto none
      (some (fromDevice hub.configs device .measurements measurements))
      (handleEsp32DeviceMeasurementsUpdate hub externalId (.value measurements)).devices
      externalId := by
  rw [measurements_update_devices hdevice]
  exact stored_of_payloads hdevice hservice hresavable rfl

omit [ExternalCalls] in
theorem brand_and_type_of_key (hkey : updated.configKey = device.configKey) :
    updated.brand = device.brand ∧ updated.type = device.type := by
  obtain ⟨hbrand, htype, -⟩ := DeviceKey.mk.inj hkey
  exact ⟨hbrand, htype⟩

/-- The messages leave a device that can be saved with what each of them reports. -/
theorem stored_of_sync_and_update
    (hdevice : findByExternalId hub.devices externalId = some device)
    (hbrand : device.brand = .value .esp32) (hresavable : Resavable hub.devices device) :
    ∃ updated, findByExternalId (syncAndUpdate hub externalId controls measurements) externalId =
      some updated ∧ HasReports hub.configs device controls measurements updated := by
  obtain ⟨synced, hsynced, hsavable, hfirst⟩ :=
    stored_of_controls_sync hdevice (get_control_service_esp32 hbrand) hresavable
  obtain ⟨hsyncedBrand, -⟩ := brand_and_type_of_key hfirst.key
  obtain ⟨updated, hupdated, -, hsecond⟩ := stored_of_measurements_update
    { hub with devices := (handleEsp32DeviceControlsSync hub externalId (.value controls)).devices }
    hsynced (get_control_service_esp32 (hsyncedBrand.trans hbrand)) hsavable
  refine ⟨updated, hupdated, ?_, ?_⟩
  · exact hfirst.controls_laid_over.congr takes_both_controls_iff.symm (fun _ => rfl)
      hsecond.controls_kept
  · -- the controls sync has not touched the measurements
    have hkept := hfirst.measurements_kept
    have hlaid := hsecond.measurements_laid_over
    simp only [fromDevice, hfirst.key] at hlaid
    refine hlaid.congr ?_ (fun name => (hkept name).symm) fun _ => rfl
    rw [takes_both_measurements_iff, hfirst.key]
    exact takes_payload_congr hkept.symm

/-- The messages do not update a device that cannot be saved. -/
theorem sync_and_update_of_not_resavable
    (hdevice : findByExternalId hub.devices externalId = some device)
    (hresavable : ¬ Resavable hub.devices device) :
    syncAndUpdate hub externalId controls measurements = hub.devices := by
  have hsync : (handleEsp32DeviceControlsSync hub externalId (.value controls)).devices =
      hub.devices := by
    rw [controls_sync_devices hdevice]
    exact devices_of_not_resavable hdevice hresavable
  rw [syncAndUpdate, hsync, measurements_update_devices hdevice]
  exact devices_of_not_resavable hdevice hresavable

/-- A stored ESP32 device that pairs again is stored as a controls sync and a measurements update
would leave it exactly when it cannot be saved at all, or what it sends enters its sections
alike. -/
theorem pairing_agrees_iff (hub : Hub) (newId : String) (request : MqttPairRequestDto)
    (device : Device) (controls measurements : DevicePayload)
    (h : PairsStored hub request device) (hbrand : device.brand = .value .esp32)
    (hcontrols : request.controls = .value controls)
    (hmeasurements : request.measurements = .value measurements) :
    StoredAlike (handleEsp32DevicePairRequest hub newId request).devices
        (syncAndUpdate hub device.externalId controls measurements) device.externalId ↔
      (Resavable hub.devices device → ReportsAlike hub.configs device controls measurements) := by
  have hdevice := find_paired h
  have hpaired : (handleEsp32DevicePairRequest hub newId request).devices =
      (updateDevice hub device.externalId (payloadsUpdate (some controls) (some measurements))
        (deviceUpdate false)).devices := by
    rw [pair_request_stored h, repair, to_update_device_eq hcontrols hmeasurements]
  rw [hpaired]
  by_cases hresavable : Resavable hub.devices device
  · have hstored : StoresPayloads hub.configs device (controlsDtoType .esp32 device.type)
        (some controls) (some measurements) (updateDevice hub device.externalId
          (payloadsUpdate (some controls) (some measurements)) (deviceUpdate false)).devices
        device.externalId :=
      stored_of_payloads hdevice (get_control_service_esp32 hbrand) hresavable rfl
    obtain ⟨paired, hone, -, hpayloads⟩ := hstored
    obtain ⟨updated, hother, hreports⟩ : ∃ updated, findByExternalId
        (syncAndUpdate hub device.externalId controls measurements) device.externalId =
          some updated ∧ HasReports hub.configs device controls measurements updated :=
      stored_of_sync_and_update hdevice hbrand hresavable
    rw [stored_alike_iff hone hother,
      same_section_iff hpayloads.controls_laid_over hreports.controls,
      same_section_iff hpayloads.measurements_laid_over hreports.measurements,
      imp_iff_right hresavable]
    exact ⟨fun h => ⟨h.1, h.2⟩, fun h => ⟨h.controls, h.measurements⟩⟩
  · rw [devices_of_not_resavable hdevice hresavable,
      sync_and_update_of_not_resavable hdevice hresavable]
    exact iff_of_true ⟨device, device, hdevice, hdevice, fun _ => rfl, fun _ => rfl⟩
      fun hsaved => absurd hsaved hresavable

end

/-! ## A dimmed lamp -/

/-- The config of a lamp that calls its brightness `bri`. -/
def dimmerConfig : DeviceConfig where
  brand := .esp32
  type := .led
  transportProtocol := .mqtt
  controls := some
    [{ label := .string "Brightness", name := .string "brightness", type := .number
       path := .string "bri" }]

/-- The stored lamp. -/
def dimmedLamp : Device :=
  { pairedLamp with controls := .ofAssignments [⟨"brightness", .number (.finite 10)⟩] }

/-- A hub with the lamp and its config. -/
def dimmerHub : Hub where
  devices := ⟨[dimmedLamp], List.pairwise_singleton _ _⟩
  configs := [dimmerConfig]

/-- The lamp reports another brightness under a name. -/
def brightness (name : String) : DevicePayload :=
  .ofAssignments [⟨name, .number (.finite 40)⟩]

/-- The lamp pairs again and reports its brightness. -/
def brighterLamp (name : String) : MqttPairRequestDto :=
  { restartedLamp with controls := .value (brightness name), measurements := .value ∅ }

theorem pairs_brighter_lamp (name : String) :
    PairsStored dimmerHub (brighterLamp name) dimmedLamp :=
  ⟨pairs_restarted_lamp.ip, pairs_restarted_lamp.name, rfl⟩

/-- Both ways store a brightness that is reported under the name of the hub. -/
theorem pairing_agrees_iff_brightness :
    PairsStored dimmerHub (brighterLamp "brightness") dimmedLamp ∧
      StoredAlike (@handleEsp32DevicePairRequest .unused dimmerHub "new"
          (brighterLamp "brightness")).devices
        (@syncAndUpdate .unused dimmerHub "lamp" (brightness "brightness") ∅) "lamp" := by
  let externalCalls := ExternalCalls.unused
  refine ⟨pairs_brighter_lamp "brightness", (pairing_agrees_iff dimmerHub "new"
    (brighterLamp "brightness") dimmedLamp (brightness "brightness") ∅
    (pairs_brighter_lamp "brightness") rfl rfl rfl).mpr fun _ => ?_⟩
  have hcontrols : TakesPayload dimmerHub.configs dimmedLamp.configKey .controls
      (controlsDtoType .esp32 dimmedLamp.type) (brightness "brightness") dimmedLamp.controls :=
    merge_returns_iff.mp ⟨_, rfl⟩
  have hmeasurements : TakesPayload dimmerHub.configs dimmedLamp.configKey .measurements
      devicePayloadDto ∅ dimmedLamp.measurements :=
    merge_returns_iff.mp ⟨_, rfl⟩
  have haccepted : TakesBoth dimmerHub.configs dimmedLamp (controlsDtoType .esp32 dimmedLamp.type)
      (some (brightness "brightness")) (some ∅) :=
    ⟨takes_update_some_iff.mpr hcontrols, takes_update_some_iff.mpr hmeasurements⟩
  exact ⟨enters_alike_of_same haccepted hcontrols rfl,
    enters_alike_of_same haccepted hmeasurements rfl⟩

/-- A brightness that is reported as `bri` is not stored when the lamp pairs again. -/
theorem brightness_not_paired :
    ¬ ∀ (hub : Hub) (newId : String) (request : MqttPairRequestDto) (device : Device)
      (controls measurements : DevicePayload), PairsStored hub request device →
        device.brand = .value .esp32 → request.controls = .value controls →
          request.measurements = .value measurements →
            StoredAlike (@handleEsp32DevicePairRequest .unused hub newId request).devices
              (@syncAndUpdate .unused hub device.externalId controls measurements)
              device.externalId := by
  intro hall
  obtain ⟨one, other, hone, hother, hsame, -⟩ := hall dimmerHub "new" (brighterLamp "bri")
    dimmedLamp (brightness "bri") ∅ (pairs_brighter_lamp "bri") rfl rfl rfl
  have hpaired : (findByExternalId (@handleEsp32DevicePairRequest .unused dimmerHub "new"
      (brighterLamp "bri")).devices "lamp").bind (·.controls.lookup "brightness") =
        some (.number (.finite 10)) := by decide +kernel
  have hsynced : (findByExternalId (@syncAndUpdate .unused dimmerHub "lamp" (brightness "bri")
      ∅) "lamp").bind (·.controls.lookup "brightness") =
        some (.number (.finite 40)) := by decide +kernel
  have hpairedId : findByExternalId (@handleEsp32DevicePairRequest .unused dimmerHub "new"
      (brighterLamp "bri")).devices "lamp" = some one := hone
  have hsyncedId : findByExternalId (@syncAndUpdate .unused dimmerHub "lamp" (brightness "bri")
      ∅) "lamp" = some other := hother
  rw [hpairedId, Option.bind_some, hsame] at hpaired
  rw [hsyncedId, Option.bind_some, hpaired] at hsynced
  exact absurd hsynced (by decide)

end MyHomeHub.DevicesMqttService
