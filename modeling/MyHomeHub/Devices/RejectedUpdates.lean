import MyHomeHub.Devices.Service
import MyHomeHub.Devices.Transport

/-!
# Rejected updates

An update that is rejected should leave no trace: no stored field, no message to the
device, no rename at the bridge and no event. `updateDevice` talks to the device before it
saves the document, so a document that cannot be saved has been sent. Everything else
happens after the save.
-/

namespace MyHomeHub.DevicesService

open JavaScript ControlService DeviceSchema

section

variable [ExternalCalls] [ColorCalls]

/-- The messages that go out when `setControls` is called for a device. -/
def sentMessages (configs : List DeviceConfig) (device : Device) (effects : List DeviceEffect) :
    List TransportMessage :=
  effects.filterMap fun effect =>
    match effect with
    | .setControls _ controls => setControls configs device controls
    | _ => none

/-- The messages that `updateDevice` sends. It talks to the device as the update leaves it. -/
def updateMessages (hub : Hub) (externalId : String) (dto : UpdateDeviceDto)
    (options : UpdateDeviceOptions) : List TransportMessage :=
  match findByExternalId hub.devices externalId with
  | none => []
  | some device =>
      match prepareUpdate hub.configs device dto options.origin with
      | .error _ => []
      | .ok assigned =>
          sentMessages hub.configs assigned.device (updateDevice hub externalId dto options).effects

/-- An update stores nothing, sends no message, renames no Zigbee device and emits no event. -/
structure LeavesNoTrace (hub : Hub) (externalId : String) (dto : UpdateDeviceDto)
    (options : UpdateDeviceOptions) : Prop where
  devices : (updateDevice hub externalId dto options).devices = hub.devices
  messages : updateMessages hub externalId dto options = []
  renames : ∀ ieeeAddress newFriendlyName, .renameDevice ieeeAddress newFriendlyName ∉
    (updateDevice hub externalId dto options).effects
  events : ∀ id controlsUpdated measurementsUpdated,
    .deviceUpdateCompleted id controlsUpdated measurementsUpdated ∉
      (updateDevice hub externalId dto options).effects

/-- Controls that are sent belong to a device that can be stored with the fields of the update. -/
def SendsOnlyStorable (hub : Hub) (externalId : String) (dto : UpdateDeviceDto)
    (options : UpdateDeviceOptions) : Prop :=
  ∀ device assigned, findByExternalId hub.devices externalId = some device →
    prepareUpdate hub.configs device dto options.origin = .ok assigned →
      payloadUpdated assigned.controls = true → options.propagateControls = true →
        SendsMessage assigned.device assigned.device.controls →
          Storable hub.devices device (dropScopedDependencyFields (some device)
            (assignFields device dto.toDeviceFieldsDto))

variable {hub : Hub} {externalId : String} {dto : UpdateDeviceDto} {options : UpdateDeviceOptions}
  {device : Device} {assigned : AssignedDevice}

omit [ColorCalls] in
/-- Besides the payloads, the document of an update has the fields of the update. -/
theorem prepared_fields (hprepare : prepareUpdate hub.configs device dto options.origin =
      .ok assigned) :
    ∃ controls measurements, assigned.device =
      { assignFields device dto.toDeviceFieldsDto with controls, measurements } := by
  obtain ⟨base, hbase, rfl⟩ := prepare_update_ok hprepare
  obtain ⟨controls, measurements, -, -, rfl⟩ := assign_payloads_ok hbase
  split
  · exact ⟨_, _, rfl⟩
  · exact ⟨_, _, rfl⟩

omit [ColorCalls] in
/-- The document of an update can be saved exactly when its fields can be stored. -/
theorem save_prepared_iff (hdevice : findByExternalId hub.devices externalId = some device)
    (hprepare : prepareUpdate hub.configs device dto options.origin = .ok assigned) :
    (∃ result, save hub.devices device assigned.device = .ok result) ↔
      Storable hub.devices device (dropScopedDependencyFields (some device)
        (assignFields device dto.toDeviceFieldsDto)) := by
  rw [save_ok_iff (find_by_external_id_iff.mp hdevice).1]
  obtain ⟨controls, measurements, hfields⟩ := prepared_fields hprepare
  rw [hfields]
  exact ⟨fun h => ⟨h.valid, h.name, h.zigbeeFriendlyName⟩,
    fun h => ⟨h.valid, h.name, h.zigbeeFriendlyName⟩⟩

omit [ColorCalls] in
/-- An update whose document cannot be saved has handed over the controls at most. -/
theorem update_device_of_save_error {error : HubError}
    (hdevice : findByExternalId hub.devices externalId = some device)
    (hprepare : prepareUpdate hub.configs device dto options.origin = .ok assigned)
    (hsave : save hub.devices device assigned.device = .error error) :
    updateDevice hub externalId dto options =
      ⟨hub.devices, if payloadUpdated assigned.controls && options.propagateControls then
        [.setControls externalId assigned.device.controls] else [], .error error⟩ := by
  simp only [updateDevice, hdevice, hprepare, hsave]

omit [ColorCalls] in
/-- An update whose document is saved is accepted. -/
theorem update_device_of_save {result : DeviceStore × Device}
    (hdevice : findByExternalId hub.devices externalId = some device)
    (hprepare : prepareUpdate hub.configs device dto options.origin = .ok assigned)
    (hsave : save hub.devices device assigned.device = .ok result) :
    (updateDevice hub externalId dto options).result = .ok result.2 := by
  obtain ⟨devices, saved⟩ := result
  simp only [updateDevice, hdevice, hprepare, hsave]

/-- An update whose document cannot be saved sends what the control service makes of the
controls. -/
theorem update_messages_of_save_error {error : HubError}
    (hdevice : findByExternalId hub.devices externalId = some device)
    (hprepare : prepareUpdate hub.configs device dto options.origin = .ok assigned)
    (hsave : save hub.devices device assigned.device = .error error) :
    updateMessages hub externalId dto options ≠ [] ↔ payloadUpdated assigned.controls = true ∧
      options.propagateControls = true ∧ SendsMessage assigned.device assigned.device.controls := by
  rw [updateMessages, hdevice]
  dsimp only
  rw [hprepare, update_device_of_save_error hdevice hprepare hsave,
    ← @set_controls_is_some_iff _ _ _ hub.configs]
  dsimp only
  by_cases hpropagated : (payloadUpdated assigned.controls && options.propagateControls) = true
  · rw [if_pos hpropagated]
    rw [Bool.and_eq_true] at hpropagated
    have hsent : sentMessages hub.configs assigned.device
        [.setControls externalId assigned.device.controls] =
          (setControls hub.configs assigned.device assigned.device.controls).toList := by
      unfold sentMessages
      cases hmessage : setControls hub.configs assigned.device assigned.device.controls with
      | none => simp [hmessage]
      | some message => simp [hmessage]
    rw [hsent]
    cases setControls hub.configs assigned.device assigned.device.controls with
    | none => exact iff_of_false (fun h => h rfl) fun ⟨_, _, h⟩ => nomatch h
    | some message => exact iff_of_true nofun ⟨hpropagated.1, hpropagated.2, rfl⟩
  · rw [if_neg hpropagated]
    refine iff_of_false (fun h => h rfl) fun ⟨hupdated, hpropagate, _⟩ => hpropagated ?_
    rw [hupdated, hpropagate]
    rfl

/-- A rejected update has done nothing, or it could not save its document. -/
theorem rejected_update_cases {error : HubError}
    (h : (updateDevice hub externalId dto options).result = .error error) :
    (updateDevice hub externalId dto options = ⟨hub.devices, [], .error error⟩ ∧
      updateMessages hub externalId dto options = []) ∨
    ∃ device assigned failed, findByExternalId hub.devices externalId = some device ∧
      prepareUpdate hub.configs device dto options.origin = .ok assigned ∧
      save hub.devices device assigned.device = .error failed := by
  cases hdevice : findByExternalId hub.devices externalId with
  | none =>
      have hnothing : updateDevice hub externalId dto options =
          ⟨hub.devices, [], .error deviceNotFound⟩ := by
        simp only [updateDevice, hdevice]
      rw [hnothing] at h
      cases h
      refine .inl ⟨hnothing, ?_⟩
      rw [updateMessages, hdevice]
  | some device =>
      cases hprepare : prepareUpdate hub.configs device dto options.origin with
      | error failed =>
          have hnothing : updateDevice hub externalId dto options =
              ⟨hub.devices, [], .error failed⟩ := by
            simp only [updateDevice, hdevice, hprepare]
          rw [hnothing] at h
          cases h
          refine .inl ⟨hnothing, ?_⟩
          simp only [updateMessages, hdevice, hprepare]
      | ok assigned =>
          cases hsave : save hub.devices device assigned.device with
          | ok result =>
              rw [update_device_of_save hdevice hprepare hsave] at h
              cases h
          | error failed => exact .inr ⟨device, assigned, failed, rfl, hprepare, hsave⟩

/-- An update that has stored nothing and sent no message leaves no trace if all it did was to hand
over controls. -/
theorem LeavesNoTrace.of_controls
    (hdevices : (updateDevice hub externalId dto options).devices = hub.devices)
    (hmessages : updateMessages hub externalId dto options = [])
    (heffects : ∀ effect ∈ (updateDevice hub externalId dto options).effects,
      ∃ id controls, effect = .setControls id controls) :
    LeavesNoTrace hub externalId dto options where
  devices := hdevices
  messages := hmessages
  renames ieeeAddress newFriendlyName hmem := by
    obtain ⟨id, controls, heffect⟩ := heffects _ hmem
    cases heffect
  events id controlsUpdated measurementsUpdated hmem := by
    obtain ⟨other, controls, heffect⟩ := heffects _ hmem
    cases heffect

/-- A rejected update leaves no trace exactly when no controls are sent for a device that cannot be
stored. -/
theorem rejected_update_leaves_no_trace_iff (hub : Hub) (externalId : String)
    (dto : UpdateDeviceDto) (options : UpdateDeviceOptions) :
    (∀ error, (updateDevice hub externalId dto options).result = .error error →
      LeavesNoTrace hub externalId dto options) ↔
        SendsOnlyStorable hub externalId dto options := by
  refine ⟨fun h device assigned hdevice hprepare hupdated hpropagate hsends => ?_,
    fun hsends error herror => ?_⟩
  · -- if the document could not be stored, the message would be a trace
    rw [← save_prepared_iff hdevice hprepare]
    cases hsave : save hub.devices device assigned.device with
    | ok result => exact ⟨result, rfl⟩
    | error error =>
        have hrejected : (updateDevice hub externalId dto options).result = .error error := by
          rw [update_device_of_save_error hdevice hprepare hsave]
        exact absurd (h error hrejected).messages
          ((update_messages_of_save_error hdevice hprepare hsave).mpr
            ⟨hupdated, hpropagate, hsends⟩)
  · rcases rejected_update_cases herror with
      ⟨hnothing, hmessages⟩ | ⟨device, assigned, failed, hdevice, hprepare, hsave⟩
    · refine .of_controls ?_ hmessages fun effect hmem => ?_
      · rw [hnothing]
      · rw [hnothing] at hmem
        cases hmem
    · have hfailed := update_device_of_save_error hdevice hprepare hsave
      refine .of_controls ?_ ?_ fun effect hmem => ?_
      · rw [hfailed]
      · -- a message would have been sent for a device that can be stored, and so was saved
        by_contra hmessages
        obtain ⟨hupdated, hpropagate, hmessage⟩ :=
          (update_messages_of_save_error hdevice hprepare hsave).mp hmessages
        obtain ⟨result, hresult⟩ := (save_prepared_iff hdevice hprepare).mpr
          (hsends device assigned hdevice hprepare hupdated hpropagate hmessage)
        rw [hsave] at hresult
        cases hresult
      · rw [hfailed] at hmem
        dsimp only at hmem
        split_ifs at hmem
        · exact ⟨_, _, List.mem_singleton.mp hmem⟩
        · cases hmem

end

/-! ## Two fans of one name -/

/-- A fan that is off. -/
def stillFan (externalId name : String) : Device where
  externalId := externalId
  name := .value name
  type := .value .fans
  brand := .value .esp32
  transportProtocol := .value .mqtt
  controls := .ofAssignments [⟨"on", .bool false⟩]

/-- A hub with two fans and no device configs. -/
def fansHub : Hub where
  devices := ⟨[stillFan "fan-1" "Attic fan", stillFan "fan-2" "Cellar fan"], by decide +kernel⟩
  configs := []

/-- The update switches the second fan on and gives it the name of the first one. -/
def renamingUpdate : UpdateDeviceDto where
  name := some (.value "Attic fan")
  controls := some (some (.ofAssignments [⟨"on", .bool true⟩]))

/-- The update is rejected, and the second fan has been switched on. -/
theorem rejected_rename_switches_fan :
    (@updateDevice .unused fansHub "fan-2" renamingUpdate {}).result = .error .duplicateKey ∧
      ¬ @LeavesNoTrace .unused .unused fansHub "fan-2" renamingUpdate {} := by
  let externalCalls := ExternalCalls.unused
  let colorCalls := ColorCalls.unused
  refine ⟨rfl, fun h => ?_⟩
  have hmessages := congrArg List.length h.messages
  revert hmessages
  decide +kernel

end MyHomeHub.DevicesService
