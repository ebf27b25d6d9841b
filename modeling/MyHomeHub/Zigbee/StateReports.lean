import MyHomeHub.DeviceConfigs.Categorizing
import MyHomeHub.Devices.Pairing
import MyHomeHub.Library.Redelivery
import MyHomeHub.Zigbee.RenameRequests

/-!
# State reports of Zigbee devices

The bridge publishes the state of a device under its friendly name. The hub sorts the fields
by the config of the device into commands, controls and measurements. It executes the
commands, and it requests an update of the stored sections by the rest.

Here each report is handled before the next one arrives. A section of a device then is what the
accepted reports lay over it, one after another (`reports_laid_over`), and a report that the
bridge publishes again has no effect (`repeated_reports_absorbed`).
-/

namespace MyHomeHub.Zigbee

open JavaScript Mapper ConfigsValidator ControlService DeviceSchema DevicesService
open DevicesMqttService Library

section

variable [ExternalCalls]

/-! ## Handling a report -/

/-- `getDeviceByZigbeeFriendlyName` -/
def findByZigbeeFriendlyName (devices : DeviceStore) (friendlyName : String) : Option Device :=
  devices.docs.find? fun device => device.zigbeeFriendlyName = .value friendlyName

/-- A section of an update, which is left out if it is empty. -/
def reportedSection (payload : DevicePayload) : Option DevicePayload :=
  if payload.entries.isEmpty then none else some payload

/-- What the handler of a report has done: the effects of its command, and the event it has
emitted. -/
structure ReportOutcome where
  effects : List DeviceEffect := []
  event : Option DeviceUpdateRequestedEvent := none

/-- The event of a report with controls or measurements. -/
def stateEvent (externalId : String) (controls measurements : Option DevicePayload) :
    Option DeviceUpdateRequestedEvent :=
  if controls.isSome || measurements.isSome then
    some {
      externalId := externalId
      update := payloadsUpdate controls measurements
      propagate := false
      origin := some .device }
  else none

/-- `handleDeviceStateUpdate`: a command that is rejected ends the handling. -/
def handleDeviceStateUpdate (hub : Hub) (zigbeeFriendlyName : String) (state : DevicePayload) :
    ReportOutcome :=
  match findByZigbeeFriendlyName hub.devices zigbeeFriendlyName with
  | none => {}
  | some device =>
      let payload :=
        (categorizeAndMapPayloadFromDevice (getConfig hub.configs device.configKey) state).payload
      let event := stateEvent device.externalId (reportedSection payload.controls)
        (reportedSection payload.measurements)
      match reportedSection payload.commands with
      | none => { event }
      | some commands =>
          let sent := sendCommand hub device.externalId commands (some .device)
          match sent.result with
          | .error _ => { effects := sent.effects }
          | .ok _ => { effects := sent.effects, event }

/-- The hub after a report and the update that it requests. -/
def handleReport (friendlyName : String) (hub : Hub) (state : DevicePayload) : Hub :=
  match (handleDeviceStateUpdate hub friendlyName state).event with
  | none => hub
  | some event =>
      { hub with
        devices := (updateDevice hub event.externalId event.update event.options).devices }

/-! ## The sections of a device -/

/-- What the controls and the measurements of a device hold. -/
@[ext]
structure SectionValues where
  controls : String → Option Value
  measurements : String → Option Value

namespace SectionValues

/-- The values of a document. -/
def ofDevice (device : Device) : SectionValues :=
  ⟨device.controls.lookup, device.measurements.lookup⟩

end SectionValues

/-- The payloads that a report lays over the sections. -/
structure ReportedPayloads where
  controls : Option DevicePayload := none
  measurements : Option DevicePayload := none

/-- The payloads of a report. One whose command is rejected has none. -/
def reportedPayloads (configs : List DeviceConfig) (key : DeviceKey) (controlsDto : PayloadDto)
    (state : DevicePayload) : ReportedPayloads :=
  let payload := (categorizeAndMapPayloadFromDevice (getConfig configs key) state).payload
  let accepted := (reportedSection payload.commands).all fun commands =>
    (validateCommand configs key controlsDto commands .sanitize).isOk
  if accepted then ⟨reportedSection payload.controls, reportedSection payload.measurements⟩ else {}

/-- A section accepts a payload that leaves it with the values. -/
structure SectionAccepts (configs : List DeviceConfig) (key : DeviceKey)
    (payloadSection : DeviceConfigSection) (dto : PayloadDto) (payload : DevicePayload)
    (values : String → Option Value) : Prop where
  entries : ∀ config, declaringConfig configs key payloadSection = some config →
    ∀ name value, payload.lookup name = some value →
      ¬ MeetsBrokenRuleOf ((config.items payloadSection).getD []) name value
  properties : ∀ property ∈ dto, ∀ value, values property.name = some value →
    value.isNullish = false → ∀ rule ∈ property.rules, rule.accepts value = true

/-- A section with a reported payload laid over it. -/
def layOver (configs : List DeviceConfig) (key : DeviceKey) (payloadSection : DeviceConfigSection)
    (payload : Option DevicePayload) (values : String → Option Value) : String → Option Value :=
  payload.elim values fun payload => (sectionChange configs key payloadSection payload).onto values

namespace SectionValues

/-- Both sections with the payloads of a report laid over them. -/
def lay (configs : List DeviceConfig) (key : DeviceKey) (reported : ReportedPayloads)
    (values : SectionValues) : SectionValues :=
  ⟨layOver configs key .controls reported.controls values.controls,
    layOver configs key .measurements reported.measurements values.measurements⟩

/-- Both sections accept a report that leaves them with the values. -/
structure Accepts (configs : List DeviceConfig) (key : DeviceKey) (controlsDto : PayloadDto)
    (reported : ReportedPayloads) (values : SectionValues) : Prop where
  controls : ∀ payload, reported.controls = some payload →
    SectionAccepts configs key .controls controlsDto payload values.controls
  measurements : ∀ payload, reported.measurements = some payload →
    SectionAccepts configs key .measurements devicePayloadDto payload values.measurements

open Classical in
/-- The values after a report: it is laid over both sections if they accept it, and else over
neither. -/
noncomputable def step (configs : List DeviceConfig) (key : DeviceKey) (controlsDto : PayloadDto)
    (values : SectionValues) (state : DevicePayload) : SectionValues :=
  guarded (Accepts configs key controlsDto (reportedPayloads configs key controlsDto state))
    (lay configs key (reportedPayloads configs key controlsDto state)) values

variable {configs : List DeviceConfig} {key : DeviceKey} {controlsDto : PayloadDto}
  {reported : ReportedPayloads} {values : SectionValues} {state : DevicePayload}

theorem lay_over_again {payloadSection : DeviceConfigSection} {payload : Option DevicePayload}
    {base : String → Option Value} :
    layOver configs key payloadSection payload (layOver configs key payloadSection payload base) =
      layOver configs key payloadSection payload base := by
  cases payload with
  | none => rfl
  | some payload => exact Change.onto_onto

/-- A report that was handled last has no effect when it is handled again. -/
theorem step_absorbs : Absorbs (step configs key controlsDto) := by
  classical
  refine guarded_absorbs fun state values => ?_
  exact SectionValues.ext lay_over_again lay_over_again

end SectionValues

/-! ## An update of payloads -/

variable {hub : Hub} {devices : DeviceStore} {device stored other : Device}
  {friendlyName externalId : String} {configs : List DeviceConfig} {key : DeviceKey}
  {controlsDto : PayloadDto} {controls measurements : Option DevicePayload}
  {options : UpdateDeviceOptions} {values : SectionValues} {state : DevicePayload}

omit [ExternalCalls] in
/-- No two devices have a friendly name in common. -/
theorem eq_of_friendly_name (hdevice : device ∈ devices) (hother : other ∈ devices)
    (hname : device.zigbeeFriendlyName = .value friendlyName)
    (hotherName : other.zigbeeFriendlyName = .value friendlyName) : other = device := by
  refine eq_of_external_id hdevice hother ?_
  by_contra hid
  have hdiffer := Collection.keys_differ_of_other hother hdevice (external_id_key_eq.mpr rfl)
    fun hkey => hid (external_id_key_eq.mp hkey).symm
  obtain ⟨-, -, hnone | hne⟩ := keys_differ_iff.mp hdiffer
  · cases hotherName.symm.trans hnone
  · exact hne (hotherName.trans hname.symm)

omit [ExternalCalls] in
/-- A device is found by the friendly name it has. -/
theorem find_by_zigbee_friendly_name (hdevice : device ∈ devices)
    (hname : device.zigbeeFriendlyName = .value friendlyName) :
    findByZigbeeFriendlyName devices friendlyName = some device := by
  unfold findByZigbeeFriendlyName
  cases hfind : devices.docs.find?
      fun device => device.zigbeeFriendlyName = .value friendlyName with
  | none =>
      have hnone := List.find?_eq_none.mp hfind device hdevice
      exact absurd (decide_eq_true hname) hnone
  | some found =>
      have hfoundName := List.find?_some hfind
      rw [eq_of_friendly_name hdevice (List.mem_of_find?_eq_some hfind) hname
        (of_decide_eq_true hfoundName)]

/-- An update of payloads writes the device only, and a Zigbee device keeps its name. -/
theorem update_payloads_kept (hdevice : findByExternalId hub.devices externalId = some device) :
    (∀ other, other.externalId ≠ externalId →
      (other ∈ (updateDevice hub externalId (payloadsUpdate controls measurements)
        options).devices ↔ other ∈ hub.devices)) ∧
    (device.transportProtocol = .value .zigbee → ∀ stored,
      findByExternalId (updateDevice hub externalId (payloadsUpdate controls measurements)
        options).devices externalId = some stored →
          stored.zigbeeFriendlyName = device.zigbeeFriendlyName) := by
  rcases update_device_cases hub externalId (payloadsUpdate controls measurements) options
    with ⟨hsame, -⟩ | ⟨found, assigned, hfound, hprepare, -, hsame | ⟨saved, hsave⟩⟩
  · rw [hsame]
    refine ⟨fun _ _ => Iff.rfl, fun _ stored hstored => ?_⟩
    cases hdevice.symm.trans hstored
    rfl
  · rw [hsame]
    refine ⟨fun _ _ => Iff.rfl, fun _ stored hstored => ?_⟩
    cases hdevice.symm.trans hstored
    rfl
  · cases hdevice.symm.trans hfound
    obtain ⟨hmem, rfl⟩ := find_by_external_id_iff.mp hdevice
    obtain ⟨hsaved, -, hafter⟩ := save_ok hmem hsave
    refine ⟨fun other hother => ?_, fun hzigbee stored hstored => ?_⟩
    · rw [hafter, and_iff_left hother]
      refine or_iff_right fun hwritten => ?_
      rw [hwritten] at hother
      exact hother rfl
    · cases (find_after_save hmem hsave).symm.trans hstored
      obtain ⟨-, hname, htransport⟩ := prepared_zigbee_fields hprepare
      have hkept : isZigbeeDevice assigned.device = true :=
        decide_eq_true (htransport.trans hzigbee)
      simp only [writeModified, written_field_same, hsaved, dropScopedDependencyFields, hkept,
        Bool.not_true, Bool.false_and, if_neg Bool.false_ne_true]
      exact hname

/-- Both sections take the payloads of a report exactly if they accept what it leaves them with. -/
theorem takes_both_iff : TakesBoth configs device controlsDto controls measurements ↔
    SectionValues.Accepts configs device.configKey controlsDto ⟨controls, measurements⟩
      (SectionValues.lay configs device.configKey ⟨controls, measurements⟩ (.ofDevice device)) := by
  have hsection {payloadSection : DeviceConfigSection} {dto : PayloadDto}
      {incoming : Option DevicePayload} {stored : DevicePayload} :
      TakesUpdate configs device.configKey payloadSection dto incoming stored ↔
        ∀ payload, incoming = some payload → SectionAccepts configs device.configKey
          payloadSection dto payload
            (layOver configs device.configKey payloadSection incoming stored.lookup) := by
    refine forall₂_congr fun payload hincoming => ?_
    subst hincoming
    exact ⟨fun h => ⟨h.entries, h.properties⟩, fun h => ⟨h.entries, h.properties⟩⟩
  rw [TakesBoth, hsection, hsection]
  exact ⟨fun h => ⟨h.1, h.2⟩, fun h => ⟨h.controls, h.measurements⟩⟩

/-! ## The handler -/

/-- A command of a device is rejected exactly if its validation is. -/
theorem send_command_is_ok {command : DevicePayload}
    (hdevice : findByExternalId hub.devices externalId = some device)
    (hservice : getControlService device = .ok controlsDto) :
    (sendCommand hub externalId command (some .device)).result.isOk =
      (validateCommand hub.configs device.configKey controlsDto command .sanitize).isOk := by
  unfold sendCommand
  rw [hdevice]
  dsimp only
  rw [hservice]
  dsimp only [bind, Except.bind, buildValidationPolicy]
  rw [if_pos rfl]
  cases validateCommand hub.configs device.configKey controlsDto command .sanitize <;> rfl

/-- The event of a report of a device that is served. -/
theorem report_event (hdevice : device ∈ hub.devices)
    (hname : device.zigbeeFriendlyName = .value friendlyName)
    (hservice : getControlService device = .ok controlsDto) :
    (handleDeviceStateUpdate hub friendlyName state).event =
      stateEvent device.externalId
        (reportedPayloads hub.configs device.configKey controlsDto state).controls
        (reportedPayloads hub.configs device.configKey controlsDto state).measurements := by
  unfold handleDeviceStateUpdate
  rw [find_by_zigbee_friendly_name hdevice hname]
  unfold reportedPayloads
  dsimp only
  cases reportedSection (categorizeAndMapPayloadFromDevice
      (getConfig hub.configs device.configKey) state).payload.commands with
  | none => rfl
  | some commands =>
      have hisOk := @send_command_is_ok _ _ _ _ _ commands
        (find_by_external_id_iff.mpr ⟨hdevice, rfl⟩) hservice
      rw [Option.all_some, ← hisOk]
      dsimp only
      cases (sendCommand hub device.externalId commands (some .device)).result with
      | error error => rfl
      | ok sent => rfl

/-- A report with payloads updates the device by them, and one without does nothing. -/
theorem handle_report_cases (hdevice : device ∈ hub.devices)
    (hname : device.zigbeeFriendlyName = .value friendlyName)
    (hservice : getControlService device = .ok controlsDto) {reported : ReportedPayloads}
    (hreported : reportedPayloads hub.configs device.configKey controlsDto state = reported) :
    (handleReport friendlyName hub state = hub ∧ reported = {}) ∨
      handleReport friendlyName hub state = { hub with
        devices := (updateDevice hub device.externalId
          (payloadsUpdate reported.controls reported.measurements)
          ⟨false, some .device⟩).devices } := by
  have hevent : (handleDeviceStateUpdate hub friendlyName state).event =
      stateEvent device.externalId reported.controls reported.measurements :=
    hreported ▸ report_event hdevice hname hservice
  unfold handleReport
  rw [hevent]
  obtain ⟨controls, measurements⟩ := reported
  cases controls with
  | some controls => exact .inr rfl
  | none =>
      cases measurements with
      | some measurements => exact .inr rfl
      | none => exact .inl ⟨rfl, rfl⟩

/-! ## Runs of reports -/

/-- A store has the device, as it was but with the values in its sections, and can save it. -/
structure StoredWith (devices : DeviceStore) (device : Device) (values : SectionValues)
    (stored : Device) : Prop where
  found : findByExternalId devices device.externalId = some stored
  resavable : Resavable devices stored
  key : stored.configKey = device.configKey
  friendlyName : stored.zigbeeFriendlyName = device.zigbeeFriendlyName
  values : .ofDevice stored = values

/-- The devices with other external ids are the same in both hubs. -/
def KeepsOthers (externalId : String) (hub after : Hub) : Prop :=
  ∀ other : Device, other.externalId ≠ externalId → (other ∈ after.devices ↔ other ∈ hub.devices)

theorem service_of_key (hkey : stored.configKey = device.configKey) :
    getControlService stored = getControlService device := by
  obtain ⟨hbrand, htype⟩ := brand_and_type_of_key hkey
  rw [getControlService, getControlService, hbrand, htype]

/-- What an update of payloads leaves is the values with the payloads laid over them, if they are
accepted. -/
theorem values_of_payloads (h : HasPayloads configs device controlsDto controls measurements stored)
    (haccepts : SectionValues.Accepts configs device.configKey controlsDto ⟨controls, measurements⟩
      (.lay configs device.configKey ⟨controls, measurements⟩ (.ofDevice device))) :
    SectionValues.ofDevice stored =
      .lay configs device.configKey ⟨controls, measurements⟩ (.ofDevice device) := by
  obtain ⟨hcontrols, hmeasurements⟩ := h.taken (takes_both_iff.mpr haccepts)
  refine SectionValues.ext (funext fun name => ?_) (funext fun name => ?_)
  · refine (hcontrols name).trans ?_
    cases controls <;> rfl
  · refine (hmeasurements name).trans ?_
    cases measurements <;> rfl

/-- A report does to the stored device what it does to the values. -/
theorem StoredWith.step (h : StoredWith hub.devices device values stored)
    (hname : device.zigbeeFriendlyName = .value friendlyName)
    (hzigbee : device.transportProtocol = .value .zigbee)
    (hservice : getControlService device = .ok controlsDto) :
    (∃ updated, StoredWith (handleReport friendlyName hub state).devices device
      (values.step hub.configs device.configKey controlsDto state) updated) ∧
    KeepsOthers device.externalId hub (handleReport friendlyName hub state) := by
  classical
  obtain ⟨hmem, hid⟩ := find_by_external_id_iff.mp h.found
  have hstoredService := (service_of_key h.key).trans hservice
  generalize hreported : reportedPayloads hub.configs device.configKey controlsDto state = reported
  rw [SectionValues.step, hreported]
  rw [← h.key] at hreported
  rcases handle_report_cases hmem (h.friendlyName.trans hname) hstoredService hreported with
    ⟨hsame, rfl⟩ | hupdated
  · rw [hsame]
    refine ⟨⟨stored, h.found, h.resavable, h.key, h.friendlyName, h.values.trans ?_⟩,
      fun _ _ => Iff.rfl⟩
    unfold guarded
    split <;> rfl
  · rw [hupdated, hid]
    obtain ⟨updated, hfound, hresavable, hpayloads⟩ := @stored_of_payloads hub stored _ controlsDto
      _ ⟨false, some .device⟩ reported.controls reported.measurements h.found hstoredService
      h.resavable rfl
    have hkept := (update_payloads_kept h.found).2
      ((congrArg DeviceKey.transportProtocol h.key).trans hzigbee) updated hfound
    refine ⟨⟨updated, hfound, hresavable, hpayloads.key.trans h.key,
      hkept.trans h.friendlyName, ?_⟩, (update_payloads_kept h.found).1⟩
    by_cases haccepts : SectionValues.Accepts hub.configs stored.configKey controlsDto reported
        (.lay hub.configs stored.configKey reported (.ofDevice stored))
    · rw [values_of_payloads hpayloads haccepts]
      rw [h.key, h.values] at haccepts ⊢
      exact (guarded_of_accepted haccepts).symm
    · rw [hpayloads.refused (mt takes_both_iff.mp haccepts)]
      rw [h.key, h.values] at haccepts
      rw [guarded_of_refused haccepts]
      exact h.values

theorem handle_report_configs : (handleReport friendlyName hub state).configs = hub.configs := by
  unfold handleReport
  split <;> rfl

/-- The reports do to the stored device what they do to the values. -/
theorem StoredWith.run (h : StoredWith hub.devices device values stored)
    (hname : device.zigbeeFriendlyName = .value friendlyName)
    (hzigbee : device.transportProtocol = .value .zigbee)
    (hservice : getControlService device = .ok controlsDto) (reports : List DevicePayload) :
    (∃ updated, StoredWith (reports.foldl (handleReport friendlyName) hub).devices device
      (reports.foldl (SectionValues.step hub.configs device.configKey controlsDto) values)
        updated) ∧
    KeepsOthers device.externalId hub (reports.foldl (handleReport friendlyName) hub) := by
  induction reports generalizing hub values stored with
  | nil => exact ⟨⟨stored, h⟩, fun _ _ => Iff.rfl⟩
  | cons state reports ih =>
      obtain ⟨⟨updated, hupdated⟩, hothers⟩ := h.step hname hzigbee hservice
      obtain ⟨hrun, hkept⟩ := ih hupdated
      rw [handle_report_configs] at hrun
      exact ⟨hrun, fun other hother => (hkept other hother).trans (hothers other hother)⟩

/-- Whatever a Zigbee device reports, its sections are what the accepted reports lay over them, one
after another, and no other device is written. -/
theorem reports_laid_over (reports : List DevicePayload) (hdevice : device ∈ hub.devices)
    (hname : device.zigbeeFriendlyName = .value friendlyName)
    (hzigbee : device.transportProtocol = .value .zigbee)
    (hservice : getControlService device = .ok controlsDto)
    (hresavable : Resavable hub.devices device) :
    (∃ stored, findByExternalId (reports.foldl (handleReport friendlyName) hub).devices
        device.externalId = some stored ∧
      SectionValues.ofDevice stored = reports.foldl
        (SectionValues.step hub.configs device.configKey controlsDto) (.ofDevice device)) ∧
    KeepsOthers device.externalId hub (reports.foldl (handleReport friendlyName) hub) := by
  have hstart : StoredWith hub.devices device (.ofDevice device) device :=
    ⟨find_by_external_id_iff.mpr ⟨hdevice, rfl⟩, hresavable, rfl, rfl, rfl⟩
  obtain ⟨⟨stored, hstored⟩, hothers⟩ := hstart.run hname hzigbee hservice reports
  exact ⟨⟨stored, hstored.found, hstored.values⟩, hothers⟩

/-! ## Reports that are published again -/

/-- The event of a report carries a payload for the device. -/
theorem report_event_cases (hdevice : device ∈ hub.devices)
    (hname : device.zigbeeFriendlyName = .value friendlyName) :
    (handleDeviceStateUpdate hub friendlyName state).event = none ∨
      ∃ controls measurements, (controls.isSome || measurements.isSome) = true ∧
        (handleDeviceStateUpdate hub friendlyName state).event = some {
          externalId := device.externalId
          update := payloadsUpdate controls measurements
          propagate := false
          origin := some .device } := by
  have hevent (controls measurements : Option DevicePayload) :
      stateEvent device.externalId controls measurements = none ∨
        ∃ controls' measurements', (controls'.isSome || measurements'.isSome) = true ∧
          stateEvent device.externalId controls measurements = some {
            externalId := device.externalId
            update := payloadsUpdate controls' measurements'
            propagate := false
            origin := some .device } := by
    unfold stateEvent
    split
    · rename_i hsome
      exact .inr ⟨controls, measurements, hsome, rfl⟩
    · exact .inl rfl
  unfold handleDeviceStateUpdate
  rw [find_by_zigbee_friendly_name hdevice hname]
  dsimp only
  split
  · exact hevent _ _
  · split
    · exact .inl rfl
    · exact hevent _ _

/-- A device without a control service takes no payload. -/
theorem devices_of_no_service (hdevice : findByExternalId hub.devices externalId = some device)
    (hservice : ∀ dto, getControlService device ≠ .ok dto)
    (hsome : (controls.isSome || measurements.isSome) = true) :
    (updateDevice hub externalId (payloadsUpdate controls measurements) options).devices =
      hub.devices := by
  rcases update_device_cases hub externalId (payloadsUpdate controls measurements) options
    with ⟨hsame, -⟩ | ⟨found, assigned, hfound, hprepare, -⟩
  · exact hsame
  · cases hdevice.symm.trans hfound
    obtain ⟨base, hbase, -⟩ := prepare_update_ok hprepare
    obtain ⟨newControls, newMeasurements, hcontrols, hmeasurements, -⟩ := assign_payloads_ok hbase
    rcases Bool.or_eq_true_iff.mp hsome with hset | hset
    · obtain ⟨payload, rfl⟩ := Option.isSome_iff_exists.mp hset
      rcases assign_payload_ok hcontrols with ⟨hnone, -⟩ | ⟨_, dto, _, _, hdto, -⟩
      · cases hnone
      · exact absurd hdto (hservice dto)
    · obtain ⟨payload, rfl⟩ := Option.isSome_iff_exists.mp hset
      rcases assign_payload_ok hmeasurements with ⟨hnone, -⟩ | ⟨_, dto, _, _, hdto, -⟩
      · cases hnone
      · exact absurd hdto (hservice dto)

/-- A report does nothing to a device that has no control service or cannot be saved. -/
theorem handle_report_of_stuck (hdevice : device ∈ hub.devices)
    (hname : device.zigbeeFriendlyName = .value friendlyName)
    (hstuck : (∀ dto, getControlService device ≠ .ok dto) ∨ ¬ Resavable hub.devices device) :
    handleReport friendlyName hub state = hub := by
  have hfound : findByExternalId hub.devices device.externalId = some device :=
    find_by_external_id_iff.mpr ⟨hdevice, rfl⟩
  unfold handleReport
  rcases @report_event_cases _ hub device friendlyName state hdevice hname with
    hnone | ⟨controls, measurements, hsome, hevent⟩
  · rw [hnone]
  · rw [hevent]
    have hsame : (updateDevice hub device.externalId (payloadsUpdate controls measurements)
        ⟨false, some .device⟩).devices = hub.devices := by
      rcases hstuck with hservice | hresavable
      · exact devices_of_no_service hfound hservice hsome
      · exact devices_of_not_resavable hfound hresavable
    dsimp only [DeviceUpdateRequestedEvent.options]
    rw [hsame]

/-- A report that the bridge publishes again before the next one has no effect on the stored
device. -/
theorem repeated_reports_absorbed {sent delivered : List DevicePayload}
    (hdevice : device ∈ hub.devices) (hname : device.zigbeeFriendlyName = .value friendlyName)
    (hzigbee : device.transportProtocol = .value .zigbee)
    (hredelivers : Redelivers sent delivered) :
    StoredAlike (delivered.foldl (handleReport friendlyName) hub).devices
      (sent.foldl (handleReport friendlyName) hub).devices device.externalId := by
  have hfound : findByExternalId hub.devices device.externalId = some device :=
    find_by_external_id_iff.mpr ⟨hdevice, rfl⟩
  by_cases hstuck : (∀ dto, getControlService device ≠ .ok dto) ∨ ¬ Resavable hub.devices device
  · have hsame (reports : List DevicePayload) :
        reports.foldl (handleReport friendlyName) hub = hub :=
      List.foldl_fixed' (fun state => handle_report_of_stuck hdevice hname hstuck) reports
    rw [hsame, hsame]
    exact ⟨device, device, hfound, hfound, fun _ => rfl, fun _ => rfl⟩
  · obtain ⟨hserved, hresavable⟩ := not_or.mp hstuck
    obtain ⟨controlsDto, hservice⟩ := not_forall_not.mp hserved
    have hstart : StoredWith hub.devices device (.ofDevice device) device :=
      ⟨hfound, not_not.mp hresavable, rfl, rfl, rfl⟩
    obtain ⟨⟨one, hone⟩, -⟩ := hstart.run hname hzigbee hservice delivered
    obtain ⟨⟨other, hother⟩, -⟩ := hstart.run hname hzigbee hservice sent
    have hvalues := hone.values.trans
      ((SectionValues.step_absorbs.foldl_eq hredelivers _).trans hother.values.symm)
    exact ⟨one, other, hone.found, hother.found,
      congrFun (congrArg SectionValues.controls hvalues),
      congrFun (congrArg SectionValues.measurements hvalues)⟩

end

/-! ## A dimmed lamp -/

/-- The config of the lamps: they have a brightness. -/
def lampConfig : DeviceConfig where
  brand := .philips
  type := .led
  transportProtocol := .zigbee
  controls := some
    [{ label := .string "Brightness", name := .string "brightness", type := .number }]

/-- A hub with the lamp in the hall. -/
def hallHub : Hub where
  devices := ⟨[hallLamp], List.pairwise_singleton _ _⟩
  configs := [lampConfig]

/-- A report of the lamp. -/
def lampState (brightness : Nat) : DevicePayload :=
  .ofAssignments [⟨"brightness", .number (.finite brightness)⟩]

theorem hall_lamp_resavable : Resavable hallHub.devices hallLamp := by
  have honly : ∀ other ∈ hallHub.devices, other.externalId = hallLamp.externalId :=
    fun other hother => congrArg Device.externalId (List.mem_singleton.mp hother)
  exact ⟨by decide +kernel, fun other hother hne => absurd (honly other hother) hne,
    fun other hother hne => absurd (honly other hother) hne⟩

/-- The lamp is dimmed and then brightened. -/
theorem reports_laid_over_lamp :
    let reports := [lampState 10, lampState 80]
    (∃ stored, findByExternalId (reports.foldl (@handleReport .unused "hall_lamp") hallHub).devices
        "hall" = some stored ∧
      SectionValues.ofDevice stored = reports.foldl (@SectionValues.step .unused [lampConfig]
        hallLamp.configKey (@controlsDtoType .unused .philips hallLamp.type))
          (.ofDevice hallLamp)) ∧
    KeepsOthers "hall" hallHub (reports.foldl (@handleReport .unused "hall_lamp") hallHub) :=
  @reports_laid_over .unused hallHub hallLamp "hall_lamp" _ [lampState 10, lampState 80]
    List.mem_cons_self rfl rfl rfl hall_lamp_resavable

/-- The first report arrives twice. -/
theorem repeated_reports_absorbed_lamp :
    StoredAlike ([lampState 10, lampState 10, lampState 80].foldl
        (@handleReport .unused "hall_lamp") hallHub).devices
      ([lampState 10, lampState 80].foldl (@handleReport .unused "hall_lamp") hallHub).devices
      "hall" :=
  @repeated_reports_absorbed .unused hallHub hallLamp "hall_lamp" _ _ List.mem_cons_self rfl rfl
    (.again _ (.next _ (.next _ .nil)))

end MyHomeHub.Zigbee
