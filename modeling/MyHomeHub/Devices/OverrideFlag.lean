import MyHomeHub.Devices.Service
import MyHomeHub.Library.Runs

/-!
# Where the override flag goes

The `$override` flag of a payload asks for the stored payload to be replaced instead of
merged. It is meant for the services only: no stored payload and no payload that is
handed to a device should have it. This module follows the flag through every sequence
of calls.
-/

namespace MyHomeHub.DevicesService

open JavaScript ConfigsValidator ControlService DeviceSchema Library

/-! ## Sequences of calls -/

/-- A call of the devices service. -/
inductive Call where
  | addDevice (externalId : String) (dto : CreateDeviceDto) (origin : Option DeviceUpdateOrigin)
  | updateDevice (externalId : String) (dto : UpdateDeviceDto) (options : UpdateDeviceOptions)
  | sendCommand (externalId : String) (command : DevicePayload)
      (origin : Option DeviceUpdateOrigin)

/-- The hub and everything the calls did besides storing devices. -/
structure Session where
  hub : Hub
  effects : List DeviceEffect

/-- A hub without devices. -/
def Session.Initial (session : Session) : Prop :=
  session.hub.devices = Collection.empty ∧ session.effects = []

/-- The payload has no flag. -/
def Flagless (payload : DevicePayload) : Prop :=
  payload.lookup devicePayloadOverrideKey = none

instance (payload : DevicePayload) : Decidable (Flagless payload) :=
  inferInstanceAs (Decidable (_ = none))

/-- No stored payload and no payload handed to a device has the flag. -/
structure Session.Flagless (session : Session) : Prop where
  stored : ∀ device ∈ session.hub.devices,
    DevicesService.Flagless device.controls ∧ DevicesService.Flagless device.measurements
  sent : ∀ externalId controls, .setControls externalId controls ∈ session.effects →
    DevicesService.Flagless controls

/-- No item of a config for the key is called like the flag, in the sections that defaults are taken
from. -/
def SeedsNoFlag (configs : List DeviceConfig) (key : DeviceKey) : Prop :=
  ∀ config, getConfig configs key = some config →
    ∀ item ∈ config.controls.getD [] ++ config.measurements.getD [],
      item.name.toString ≠ devicePayloadOverrideKey

/-- The flag of a payload for a new device is set, or no config applies to the payload. -/
def AddsNoFlag (configs : List DeviceConfig) (key : DeviceKey)
    (payloadSection : DeviceConfigSection) (incoming : Option (Option DevicePayload)) : Prop :=
  ∀ payload, incoming = some (some payload) →
    DevicesService.Flagless payload ∨ SetsOverride payload ∨
      (getConfig configs key).bind (·.items payloadSection) = none

/-- The calls that keep the flag out: a new device has it in a payload that no config applies to or
sets it, a command does not have it, and no config that defaults are taken from declares it. -/
def KeepsFlagOut (session : Session) : Call → Prop
  | .addDevice externalId dto _ =>
      let key := (newDevice externalId dto).configKey
      AddsNoFlag session.hub.configs key .controls dto.controls ∧
        AddsNoFlag session.hub.configs key .measurements dto.measurements ∧
          SeedsNoFlag session.hub.configs key
  | .updateDevice externalId dto _ =>
      ∀ device, findByExternalId session.hub.devices externalId = some device →
        isDeviceConfigKeyChanged device dto.toDeviceFieldsDto = true →
          SeedsNoFlag session.hub.configs
            (assignFields device dto.toDeviceFieldsDto).configKey
  | .sendCommand _ command _ => DevicesService.Flagless command

section Calls

variable [ExternalCalls]

/-- The outcome of a call. -/
def perform (hub : Hub) : Call → Outcome
  | .addDevice externalId dto origin => addDevice hub externalId dto origin
  | .updateDevice externalId dto options => updateDevice hub externalId dto options
  | .sendCommand externalId command origin => sendCommand hub externalId command origin

/-- A call stores devices and has effects. The configs and what the bridge reports may have changed
when the next call begins. -/
def Session.step (session : Session) (call : Call) (next : Session) : Prop :=
  next.hub.devices = (perform session.hub call).devices ∧
    next.effects = session.effects ++ (perform session.hub call).effects

/-! ## The flag of one payload -/

section Payloads

variable {configs : List DeviceConfig} {key : DeviceKey} {device : Device}
  {payloadSection : DeviceConfigSection} {policy : DeviceConfigValidationPolicy}

omit [ExternalCalls] in
theorem flagless_erase (payload : DevicePayload) :
    Flagless (payload.erase devicePayloadOverrideKey) := by
  rw [Flagless, lookup_erase_override, if_pos rfl]

omit [ExternalCalls] in
/-- A merged payload has a flag only if the old payload has one and stays. -/
theorem flagless_merge_payload {payload oldPayload : DevicePayload}
    (h : (payload.get devicePayloadOverrideKey).truthy = true ∨ Flagless oldPayload) :
    Flagless (mergePayload payload oldPayload).1 := by
  rw [Flagless, lookup_merge_payload, lookup_erase_override, if_pos rfl, Option.none_or]
  rcases h with htruthy | hold
  · rw [if_pos htruthy]
  · rw [hold, ite_self]

/-- A section that is validated has no flag that the payload does not have. -/
theorem flagless_validated_section {payload : DevicePayload} {result : ValidatedSection}
    (hpayload : Flagless payload)
    (h : validateSection configs key payloadSection payload policy = .ok result) :
    Flagless result.payload := by
  cases hsection : (getConfig configs key).bind (·.items payloadSection) with
  | none =>
      rw [validate_section_of_no_config hsection h]
      exact hpayload
  | some items =>
      obtain ⟨config, hconfig, hitems⟩ := Option.bind_eq_some_iff.mp hsection
      have hvalidated := (validate_section_of_config hconfig (by rw [hitems]; rfl) h).2
      rw [Flagless, lookup_validated_override hvalidated, hpayload, Option.map_none]

/-- An update of a stored payload without the flag leaves it without the flag. -/
theorem flagless_assigned {dto : PayloadDto → PayloadDto}
    {incoming : Option (Option DevicePayload)} {old : DevicePayload}
    {result : Option MergedPayload} (hold : Flagless old)
    (h : assignPayload configs device payloadSection dto incoming (fun _ => old) policy =
      .ok result) : Flagless ((result.map (·.merged)).getD old) := by
  rcases assign_payload_ok h with ⟨-, rfl⟩ | ⟨payload, controlsDto, merged, -, -, hmerge, rfl⟩
  · exact hold
  · obtain ⟨validated, -, -, hmerged, -⟩ := merge_validate_ok hmerge
    rw [Option.map_some, Option.getD_some, hmerged]
    exact flagless_merge_payload (.inr hold)

/-- The payload of a new device is merged into itself, so a flag that is not set stays, unless no
config applies: then the payload that is merged loses it along with the one it is merged into. -/
theorem flagless_added {dto : PayloadDto → PayloadDto}
    {incoming : Option (Option DevicePayload)} {result : Option MergedPayload}
    (hflag : AddsNoFlag configs device.configKey payloadSection incoming)
    (h : assignPayload configs device payloadSection dto incoming id policy = .ok result) :
    Flagless ((result.map (·.merged)).getD ((incoming.bind id).getD ∅)) := by
  rcases assign_payload_ok h with
    ⟨rfl, rfl⟩ | ⟨payload, controlsDto, merged, rfl, -, hmerge, rfl⟩
  · rfl
  · obtain ⟨validated, hvalidated, hincoming, hmerged, -⟩ := merge_validate_ok hmerge
    rw [Option.map_some, Option.getD_some, hmerged]
    apply flagless_merge_payload
    rw [hincoming]
    cases hsection : (getConfig configs device.configKey).bind (·.items payloadSection) with
    | none =>
        have hinput := validate_section_of_no_config hsection hvalidated
        right
        rw [if_pos (by rw [hinput])]
        exact flagless_erase payload
    | some items =>
        obtain ⟨config, hconfig, hitems⟩ := Option.bind_eq_some_iff.mp hsection
        obtain ⟨hinput, hpayload⟩ :=
          validate_section_of_config hconfig (by rw [hitems]; rfl) hvalidated
        rcases hflag payload rfl with hflagless | hset | hnone
        · right
          rw [if_neg (by rw [hinput]; exact Bool.false_ne_true)]
          exact hflagless
        · exact .inl ((truthy_validated_override hpayload).mpr hset)
        · rw [hsection] at hnone
          cases hnone

omit [ExternalCalls] in
theorem flagless_defaults {items : Option (List DeviceConfigItem)}
    (h : ∀ item ∈ items.getD [], item.name.toString ≠ devicePayloadOverrideKey) :
    Flagless (buildDefaultPayload items) := by
  rw [Flagless, AList.lookup_eq_none, buildDefaultPayload, Object.mem_of_assignments]
  intro h
  obtain ⟨value, hvalue⟩ := h
  obtain ⟨item, hitem, hentry⟩ := List.mem_map.mp hvalue
  exact h item hitem (Sigma.mk.inj hentry).1

omit [ExternalCalls] in
/-- Defaults of a config without an item of that name bring no flag. -/
theorem flagless_seeded (hseeds : SeedsNoFlag configs device.configKey)
    (hdevice : Flagless device.controls ∧ Flagless device.measurements) :
    Flagless (applyConfigDefaults configs device).controls ∧
      Flagless (applyConfigDefaults configs device).measurements := by
  have hdefaults : Flagless (buildDefaultPayloads configs device.configKey).controls ∧
      Flagless (buildDefaultPayloads configs device.configKey).measurements := by
    unfold buildDefaultPayloads
    cases hconfig : getConfig configs device.configKey with
    | none => exact ⟨rfl, rfl⟩
    | some config =>
        have hitems := hseeds config hconfig
        exact ⟨flagless_defaults fun item hitem => hitems item (List.mem_append_left _ hitem),
          flagless_defaults fun item hitem => hitems item (List.mem_append_right _ hitem)⟩
  obtain ⟨hcontrols, hmeasurements⟩ := lookup_apply_config_defaults configs device
  refine ⟨?_, ?_⟩
  · rw [Flagless, hcontrols, hdevice.1, hdefaults.1, Option.none_or]
  · rw [Flagless, hmeasurements, hdevice.2, hdefaults.2, Option.none_or]

end Payloads

/-! ## The flag of one document -/

/-- Both payloads of a document have no flag. -/
def DeviceFlagless (device : Device) : Prop :=
  Flagless device.controls ∧ Flagless device.measurements

section Documents

variable {configs : List DeviceConfig} {device : Device} {origin : Option DeviceUpdateOrigin}

/-- The document that an update prepares has no flag. -/
theorem flagless_updated {dto : UpdateDeviceDto} {assigned : AssignedDevice}
    (h : prepareUpdate configs device dto origin = .ok assigned)
    (hdevice : DeviceFlagless device)
    (hseeds : isDeviceConfigKeyChanged device dto.toDeviceFieldsDto = true →
      SeedsNoFlag configs (assignFields device dto.toDeviceFieldsDto).configKey) :
    DeviceFlagless assigned.device := by
  obtain ⟨base, hbase, hassigned⟩ := prepare_update_ok h
  obtain ⟨controls, measurements, hcontrols, hmeasurements, rfl⟩ := assign_payloads_ok hbase
  have hboth := And.intro (flagless_assigned hdevice.1 hcontrols)
    (flagless_assigned hdevice.2 hmeasurements)
  rw [hassigned]
  split
  · rename_i hchanged
    exact flagless_seeded (hseeds hchanged) hboth
  · exact hboth

/-- The document of a new device has no flag. -/
theorem flagless_new {externalId : String} {dto : CreateDeviceDto}
    (h : prepareDevice configs externalId dto origin = .ok device)
    (hcontrols : AddsNoFlag configs (newDevice externalId dto).configKey .controls dto.controls)
    (hmeasurements : AddsNoFlag configs (newDevice externalId dto).configKey .measurements
      dto.measurements)
    (hseeds : SeedsNoFlag configs (newDevice externalId dto).configKey) :
    DeviceFlagless device := by
  obtain ⟨assigned, hassigned, rfl⟩ := prepare_device_ok h
  obtain ⟨controls, measurements, hassignControls, hassignMeasurements, rfl⟩ :=
    assign_payloads_ok hassigned
  exact flagless_seeded hseeds ⟨flagless_added hcontrols hassignControls,
    flagless_added hmeasurements hassignMeasurements⟩

omit [ExternalCalls] in
/-- The stored devices have no flag after a document without one is saved. -/
theorem flagless_saved {devices devices' : DeviceStore} {loaded saved : Device}
    (hstored : ∀ other ∈ devices, DeviceFlagless other) (hdevice : DeviceFlagless device)
    (hloaded : loaded ∈ devices) (h : save devices loaded device = .ok (devices', saved)) :
    ∀ other ∈ devices', DeviceFlagless other := by
  intro other hother
  obtain ⟨hsaved, -, hmem⟩ := save_ok hloaded h
  rcases (hmem other).mp hother with rfl | ⟨hold, -⟩
  · obtain ⟨-, hcontrols, hmeasurements⟩ := write_modified_same loaded saved
    rw [DeviceFlagless, Flagless, Flagless, hcontrols, hmeasurements, hsaved, drop_controls,
      drop_measurements]
    exact hdevice
  · exact hstored other hold

end Documents

/-! ## The flag in every sequence of calls -/

section Sessions

variable {session next : Session} {call : Call}

/-- One call keeps the flag out. -/
theorem flagless_step (hsession : session.Flagless) (hcall : KeepsFlagOut session call)
    (h : session.step call next) : next.Flagless := by
  obtain ⟨hdevices, heffects⟩ := h
  -- a call has to keep the flag out of what it stores and out of what it sends
  have hnext : (∀ other ∈ (perform session.hub call).devices, DeviceFlagless other) →
      (∀ id controls, .setControls id controls ∈ (perform session.hub call).effects →
        Flagless controls) → next.Flagless := by
    intro hstored hsent
    refine ⟨fun other hother => hstored other (hdevices ▸ hother), fun id controls hmem => ?_⟩
    rw [heffects] at hmem
    rcases List.mem_append.mp hmem with hmem | hmem
    · exact hsession.sent id controls hmem
    · exact hsent id controls hmem
  cases call with
  | addDevice externalId dto origin =>
      obtain ⟨hcontrols, hmeasurements, hseeds⟩ := hcall
      obtain ⟨heffect, hcases⟩ := add_device_cases session.hub externalId dto origin
      refine hnext (fun other hother => ?_) fun id controls hmem =>
        absurd hmem (heffect id controls)
      rcases hcases with hsame | ⟨device, saved, hprepare, hsave⟩
      · exact hsession.stored other (hsame ▸ hother)
      · obtain ⟨hsaved, -, hmem⟩ := save_new_ok hsave
        rcases (hmem other).mp hother with hold | rfl
        · exact hsession.stored other hold
        · have hnew := flagless_new hprepare hcontrols hmeasurements hseeds
          rw [hsaved]
          exact hnew
  | updateDevice externalId dto options =>
      rcases update_device_cases session.hub externalId dto options with
        ⟨hsame, hnone⟩ | ⟨device, assigned, hdevice, hprepare, hsent, hcases⟩
      · refine hnext (fun other hother => hsession.stored other (hsame ▸ hother)) ?_
        intro id controls hmem
        rw [perform, hnone] at hmem
        cases hmem
      · have hloaded := (find_by_external_id_iff.mp hdevice).1
        have hassigned := flagless_updated hprepare (hsession.stored device hloaded)
          (hcall device hdevice)
        refine hnext (fun other hother => ?_) fun id controls hmem => ?_
        · rcases hcases with hsame | ⟨saved, hsave⟩
          · exact hsession.stored other (hsame ▸ hother)
          · exact flagless_saved hsession.stored hassigned hloaded hsave other hother
        · cases hsent _ hmem
          exact hassigned.1
  | sendCommand externalId command origin =>
      obtain ⟨hsame, hsent⟩ := send_command_cases session.hub externalId command origin
      refine hnext (fun other hother => hsession.stored other (hsame ▸ hother)) ?_
      intro id controls hmem
      obtain ⟨device, controlsDto, -, hvalidate⟩ := hsent id controls hmem
      rw [validateCommand] at hvalidate
      cases hsection : validateSection session.hub.configs device.configKey .commands command
          (buildValidationPolicy origin) with
      | error error => simp [hsection, bind, Except.bind] at hvalidate
      | ok validated =>
          simp only [hsection, bind, Except.bind] at hvalidate
          rw [(validate_dto_ok hvalidate).1]
          exact flagless_validated_section hcall hsection

/-- In every sequence of calls that keep the flag out, no stored payload and no payload handed to a
device has the flag. -/
theorem flagless_of_run (hinitial : session.Initial)
    (hrun : Reaches Session.step KeepsFlagOut session next) : next.Flagless := by
  refine hrun.invariant ?_ ?_
  · refine ⟨fun device hdevice => ?_, fun id controls hmem => ?_⟩
    · rw [hinitial.1] at hdevice
      cases hdevice
    · rw [hinitial.2] at hmem
      cases hmem
  · intro s call t hs hcall hstep
    exact flagless_step hs hcall hstep

end Sessions

end Calls

/-! ## A plug that is added with the flag -/

/-- A config that declares nothing and allows everything. -/
def plugConfig : DeviceConfig where
  brand := .shelly
  type := .plug
  transportProtocol := .http
  strict := some false
  commands := some []
  controls := some []
  measurements := some []

/-- A hub without devices. -/
def plugSession : Session :=
  ⟨{ devices := .empty, configs := [plugConfig] }, []⟩

/-- A request for a new plug that is switched on, with the flag. -/
def plugDto (flag : Bool) : CreateDeviceDto :=
  { name := some (.value "Plug")
    type := some (.value .plug)
    brand := some (.value .shelly)
    transportProtocol := some (.value .http)
    controls := some (some (.ofAssignments
      [⟨"on", .bool true⟩, ⟨devicePayloadOverrideKey, .bool flag⟩])) }

/-- The session after a call, in the same surroundings. -/
def Session.after [ExternalCalls] (session : Session) (call : Call) : Session :=
  ⟨{ session.hub with devices := (perform session.hub call).devices },
    session.effects ++ (perform session.hub call).effects⟩

/-- The session after the plug was added. -/
def plugAdded (flag : Bool) : Session :=
  @Session.after .unused plugSession (.addDevice "plug" (plugDto flag) none)

/-- The session after a command with the flag, too. -/
def plugCommanded : Session :=
  @Session.after .unused (plugAdded false)
    (.sendCommand "plug" (.ofAssignments [⟨devicePayloadOverrideKey, .bool true⟩]) none)

theorem set_flag_kept_out :
    KeepsFlagOut plugSession (.addDevice "plug" (plugDto true) none) := by
  refine ⟨fun payload hpayload => .inr (.inl ?_), fun payload hpayload => ?_, ?_⟩
  · cases hpayload
    exact .inl rfl
  · cases hpayload
  · intro config hconfig item hitem
    cases hconfig
    cases hitem

/-- A plug that is added with the flag set is stored without it. -/
theorem flagless_of_run_set_flag :
    (plugAdded true).hub.devices.docs.length = 1 ∧ (plugAdded true).Flagless :=
  ⟨by decide +kernel, @flagless_of_run .unused plugSession (plugAdded true) ⟨rfl, rfl⟩
    (@Reaches.of_step _ _ (@Session.step .unused) _ _ _ _ set_flag_kept_out ⟨rfl, rfl⟩)⟩

/-- A plug that is added with the flag not set is stored with it, and a command with the flag is
handed to the plug with it. -/
theorem flag_stored_and_sent :
    plugSession.Initial ∧ Reaches (@Session.step .unused) anyAction plugSession plugCommanded ∧
      (∃ device ∈ plugCommanded.hub.devices, ¬ Flagless device.controls) ∧
      ∃ externalId controls, .setControls externalId controls ∈ plugCommanded.effects ∧
        ¬ Flagless controls := by
  refine ⟨⟨rfl, rfl⟩, ?_, ?_, ?_⟩
  · exact (@Reaches.of_step _ _ (@Session.step .unused) _ _ _ _ trivial ⟨rfl, rfl⟩).trans
      (@Reaches.of_step _ _ (@Session.step .unused) _ _ _ _ trivial ⟨rfl, rfl⟩)
  · refine ⟨_, List.mem_singleton.mpr rfl, ?_⟩
    decide +kernel
  · exact ⟨"plug", _, List.mem_cons_self, by decide +kernel⟩

end MyHomeHub.DevicesService
