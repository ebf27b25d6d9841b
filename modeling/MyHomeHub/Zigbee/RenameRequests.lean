import MyHomeHub.Zigbee.FriendlyNames

/-!
# Rename requests to the bridge

`updateDevice` publishes a rename when the stored friendly name differs from the one in the
cache of pairable devices. The cache is what the last device list made of it: it holds the
eligible devices only, and a restart empties it. This module follows the cache through the
messages that the hub has handled, and says when an update that leaves the name alone
publishes it.
-/

namespace MyHomeHub.Zigbee

open JavaScript DeviceSchema DevicesService Library

/-! ## What the hub handles -/

/-- What happens to the hub. -/
inductive HubMessage where
  | restarted
  | bridgeHealth (connected : Bool)
  | bridgeDevices (zigbeeDevices : List ZigbeeDevice)
  | updateDevice (externalId : String) (dto : UpdateDeviceDto) (options : UpdateDeviceOptions)
  /-- Another call has stored devices or configs. -/
  | stored (devices : DeviceStore) (configs : List DeviceConfig)

/-- The device list that was received last since the hub was started. -/
def lastDevices (messages : List HubMessage) : Option (List ZigbeeDevice) :=
  messages.foldl (fun last message =>
    match message with
    | .restarted => none
    | .bridgeDevices zigbeeDevices => some zigbeeDevices
    | _ => last) none

/-- Whether the last health report since the hub was started is of a connected bridge. -/
def lastConnected (messages : List HubMessage) : Bool :=
  messages.foldl (fun last message =>
    match message with
    | .restarted => false
    | .bridgeHealth connected => connected
    | _ => last) false

/-- The last device list reports the name for the address, and the device on it is eligible. -/
def ReportsName (messages : List HubMessage) (ieeeAddress friendlyName : String) : Prop :=
  ∃ zigbeeDevices, lastDevices messages = some zigbeeDevices ∧
    (savePairableDevices zigbeeDevices).lookup ieeeAddress = some friendlyName

/-- The request leaves the friendly name of the device as it is stored. -/
def KeepsFriendlyName (devices : DeviceStore) (externalId : String) (dto : UpdateDeviceDto) :
    Prop :=
  ∀ device, findByExternalId devices externalId = some device →
    assignField device.zigbeeFriendlyName dto.zigbeeFriendlyName = device.zigbeeFriendlyName

section

variable [ExternalCalls]

/-- The hub after a message. A restart loses what is only in memory. -/
def handleMessage (hub : Hub) : HubMessage → Hub
  | .restarted => { hub with pairableDevices := [], bridgeConnected := false }
  | .bridgeHealth connected => { hub with bridgeConnected := connected }
  | .bridgeDevices zigbeeDevices =>
      { hub with pairableDevices := savePairableDevices zigbeeDevices }
  | .updateDevice externalId dto options =>
      { hub with devices := (updateDevice hub externalId dto options).devices }
  | .stored devices configs => { hub with devices := devices, configs := configs }

/-- The hub after a sequence of messages since it was first started. -/
def hubAfter (devices : DeviceStore) (configs : List DeviceConfig) (messages : List HubMessage) :
    Hub :=
  messages.foldl handleMessage { devices := devices, configs := configs }

/-- The update passes the validation and can be stored, and it leaves a Zigbee device with the
address and the name. -/
structure UpdatesZigbeeDevice (hub : Hub) (externalId : String) (dto : UpdateDeviceDto)
    (options : UpdateDeviceOptions) (device : Device) (ieeeAddress friendlyName : String) :
    Prop where
  found : findByExternalId hub.devices externalId = some device
  accepted : ∃ assigned, prepareUpdate hub.configs device dto options.origin = .ok assigned ∧
    Storable hub.devices device (dropScopedDependencyFields (some device) assigned.device)
  transportProtocol : assignField device.transportProtocol dto.transportProtocol = .value .zigbee
  ieeeAddress : device.zigbeeIeeeAddress = .value ieeeAddress
  friendlyName : device.zigbeeFriendlyName = .value friendlyName

end

/-! ## The cache follows the messages -/

section

variable [ExternalCalls] {devices : DeviceStore} {configs : List DeviceConfig}
  {messages : List HubMessage}

theorem hub_after_append {message : HubMessage} :
    hubAfter devices configs (messages ++ [message]) =
      handleMessage (hubAfter devices configs messages) message := by
  rw [hubAfter, List.foldl_append]
  rfl

/-- The cache is that of the last device list. -/
theorem pairable_devices_after :
    (hubAfter devices configs messages).pairableDevices =
      (lastDevices messages).elim [] savePairableDevices := by
  induction messages using List.reverseRecOn with
  | nil => rfl
  | append_singleton messages message ih =>
      rw [hub_after_append, lastDevices, List.foldl_append]
      cases message with
      | restarted => rfl
      | bridgeDevices zigbeeDevices => rfl
      | bridgeHealth connected => exact ih
      | updateDevice externalId dto options => exact ih
      | stored devices configs => exact ih

theorem bridge_connected_after :
    (hubAfter devices configs messages).bridgeConnected = lastConnected messages := by
  induction messages using List.reverseRecOn with
  | nil => rfl
  | append_singleton messages message ih =>
      rw [hub_after_append, lastConnected, List.foldl_append]
      cases message with
      | restarted => rfl
      | bridgeHealth connected => rfl
      | bridgeDevices zigbeeDevices => exact ih
      | updateDevice externalId dto options => exact ih
      | stored devices configs => exact ih

/-- A name is looked up in the cache exactly if the last device list reports it. -/
theorem lookup_after_iff {ieeeAddress friendlyName : String} :
    (hubAfter devices configs messages).pairableDevices.lookup ieeeAddress = some friendlyName ↔
      ReportsName messages ieeeAddress friendlyName := by
  rw [pairable_devices_after, ReportsName]
  cases lastDevices messages with
  | none => simp
  | some zigbeeDevices => simp

/-! ## The rename of one update -/

variable {hub : Hub} {externalId : String} {dto : UpdateDeviceDto} {options : UpdateDeviceOptions}
  {device : Device} {ieeeAddress friendlyName : String}

/-- An update publishes a rename when the document is saved and `updateDevice` compares it with the
cache. -/
theorem rename_mem_effects_iff {address name : Optional String} :
    .renameDevice address name ∈ (updateDevice hub externalId dto options).effects ↔
      ∃ device assigned devices saved, findByExternalId hub.devices externalId = some device ∧
        prepareUpdate hub.configs device dto options.origin = .ok assigned ∧
        save hub.devices device assigned.device = .ok (devices, saved) ∧
        .renameDevice address name ∈ renameUpdated hub saved := by
  rw [updateDevice]
  split
  · rename_i hnone
    refine iff_of_false (fun hmem => by cases hmem) fun h => ?_
    obtain ⟨device, -, -, -, hfound, -⟩ := h
    rw [hnone] at hfound
    cases hfound
  · rename_i device hdevice
    split
    · rename_i error hprepare
      refine iff_of_false (fun hmem => by cases hmem) fun h => ?_
      obtain ⟨found, assigned, devices, saved, hfound, hassigned, -⟩ := h
      cases hdevice.symm.trans hfound
      rw [hprepare] at hassigned
      cases hassigned
    · rename_i assigned hprepare
      have hcontrols (condition : Bool) : DeviceEffect.renameDevice address name ∉
          if condition = true then [.setControls externalId assigned.device.controls] else [] := by
        cases condition with
        | false => exact List.not_mem_nil
        | true => exact fun h => by cases List.mem_singleton.mp h
      dsimp only
      split
      · rename_i error hsave
        refine iff_of_false (hcontrols _) fun h => ?_
        obtain ⟨found, other, devices, saved, hfound, hassigned, hsaved, -⟩ := h
        cases hdevice.symm.trans hfound
        cases hprepare.symm.trans hassigned
        rw [hsave] at hsaved
        cases hsaved
      · rename_i devices saved hsave
        dsimp only
        rw [List.mem_append, List.mem_append, or_iff_right (hcontrols _),
          or_iff_left fun h => by cases List.mem_singleton.mp h]
        constructor
        · intro h
          exact ⟨device, assigned, devices, saved, hdevice, hprepare, hsave, h⟩
        · intro h
          obtain ⟨found, other, devices', saved', hfound, hassigned, hsaved, hmem⟩ := h
          cases hdevice.symm.trans hfound
          cases hprepare.symm.trans hassigned
          cases hsave.symm.trans hsaved
          exact hmem

omit [ExternalCalls] in
/-- A saved Zigbee device is renamed on the bridge if the bridge is connected and the cache has no
device of that address and name. -/
theorem rename_updated_iff {saved : Device}
    (haddress : saved.zigbeeIeeeAddress = .value ieeeAddress)
    (hnonEmpty : ieeeAddress ≠ "") (hname : saved.zigbeeFriendlyName = .value friendlyName) :
    (∃ address name, .renameDevice address name ∈ renameUpdated hub saved) ↔
      hub.bridgeConnected = true ∧ hub.pairableDevices.lookup ieeeAddress ≠ some friendlyName := by
  unfold renameUpdated renameDevice
  simp only [haddress, hname]
  cases hub.bridgeConnected with
  | false => simp
  | true =>
      cases hub.pairableDevices.lookup ieeeAddress with
      | none => simp [hnonEmpty]
      | some reported => simp [hnonEmpty]

/-- The Zigbee fields of the document that an update prepares. -/
theorem prepared_zigbee_fields {origin : Option DeviceUpdateOrigin} {assigned : AssignedDevice}
    (h : prepareUpdate configs device dto origin = .ok assigned) :
    assigned.device.zigbeeIeeeAddress = device.zigbeeIeeeAddress ∧
      assigned.device.zigbeeFriendlyName =
        assignField device.zigbeeFriendlyName dto.zigbeeFriendlyName ∧
      assigned.device.transportProtocol =
        assignField device.transportProtocol dto.transportProtocol := by
  obtain ⟨base, hbase, rfl⟩ := prepare_update_ok h
  obtain ⟨controls, measurements, -, -, rfl⟩ := assign_payloads_ok hbase
  split <;> exact ⟨rfl, rfl, rfl⟩

omit [ExternalCalls] in
/-- A Zigbee device keeps its Zigbee fields when it is saved, and they are texts. -/
theorem saved_zigbee_fields {document : Device}
    (hzigbee : document.transportProtocol = .value .zigbee)
    (hvalid : invalidPaths (dropScopedDependencyFields (some device) document) = []) :
    ∃ ieeeAddress friendlyName, ieeeAddress ≠ "" ∧
      document.zigbeeIeeeAddress = .value ieeeAddress ∧
      document.zigbeeFriendlyName = .value friendlyName ∧
      (dropScopedDependencyFields (some device) document).zigbeeIeeeAddress = .value ieeeAddress ∧
      (dropScopedDependencyFields (some device) document).zigbeeFriendlyName =
        .value friendlyName := by
  have hkept : isZigbeeDevice document = true := decide_eq_true hzigbee
  have haddress : (dropScopedDependencyFields (some device) document).zigbeeIeeeAddress =
      document.zigbeeIeeeAddress := by simp [dropScopedDependencyFields, hkept]
  have hname : (dropScopedDependencyFields (some device) document).zigbeeFriendlyName =
      document.zigbeeFriendlyName := by simp [dropScopedDependencyFields, hkept]
  have hstill : isZigbeeDevice (dropScopedDependencyFields (some device) document) = true := hkept
  obtain ⟨hnameRule, haddressRule⟩ := zigbee_rules_of_valid hvalid
  rw [haddress, hname] at hnameRule
  rw [haddress, hstill] at haddressRule
  rw [haddress, hname]
  cases hvalue : document.zigbeeIeeeAddress with
  | undefined =>
      rw [hvalue] at haddressRule
      cases haddressRule
  | null =>
      rw [hvalue] at haddressRule
      cases haddressRule
  | value ieeeAddress =>
      rw [hvalue] at haddressRule hnameRule
      have hnonEmpty : ieeeAddress ≠ "" := by
        rintro rfl
        cases haddressRule
      have hset : (Optional.value ieeeAddress).isNonEmpty = true := decide_eq_true hnonEmpty
      rw [hset] at hnameRule
      cases hfriendly : document.zigbeeFriendlyName with
      | undefined =>
          rw [hfriendly] at hnameRule
          cases hnameRule
      | null =>
          rw [hfriendly] at hnameRule
          cases hnameRule
      | value friendlyName => exact ⟨ieeeAddress, friendlyName, hnonEmpty, rfl, rfl, rfl, rfl⟩

omit [ExternalCalls] in
/-- A device of another protocol has no address when it is saved, so it is not renamed. -/
theorem saved_other_protocol {document : Device}
    (hother : document.transportProtocol ≠ .value .zigbee)
    (hvalid : invalidPaths (dropScopedDependencyFields (some device) document) = []) :
    renameUpdated hub (dropScopedDependencyFields (some device) document) = [] := by
  have hnot : isZigbeeDevice (dropScopedDependencyFields (some device) document) = false :=
    decide_eq_false hother
  have hrule := (zigbee_rules_of_valid hvalid).2
  rw [hnot] at hrule
  unfold renameUpdated
  split
  · rename_i ieeeAddress haddress
    rw [haddress] at hrule
    cases hrule
  · rfl

/-- An update that leaves the name alone publishes it exactly when it is accepted, it leaves a
Zigbee device, the bridge is connected, and the cache does not have the name for the address. -/
theorem publishes_name_iff (hkeeps : KeepsFriendlyName hub.devices externalId dto) :
    (∃ address name,
        .renameDevice address name ∈ (updateDevice hub externalId dto options).effects) ↔
      ∃ device ieeeAddress friendlyName,
        UpdatesZigbeeDevice hub externalId dto options device ieeeAddress friendlyName ∧
          hub.bridgeConnected = true ∧
          hub.pairableDevices.lookup ieeeAddress ≠ some friendlyName := by
  simp only [rename_mem_effects_iff]
  constructor
  · intro h
    obtain ⟨address, name, device, assigned, devices', saved, hfound, hprepare, hsave, hmem⟩ := h
    have hdevice := (find_by_external_id_iff.mp hfound).1
    obtain ⟨hsaved, -, -⟩ := save_ok hdevice hsave
    have hstorable := (save_ok_iff hdevice).mp ⟨_, hsave⟩
    obtain ⟨haddress, hname, hprotocol⟩ := prepared_zigbee_fields hprepare
    subst hsaved
    by_cases hzigbee : assigned.device.transportProtocol = .value .zigbee
    · obtain ⟨ieeeAddress, friendlyName, hnonEmpty, hown, hownName, hsavedAddress, hsavedName⟩ :=
        saved_zigbee_fields hzigbee hstorable.valid
      have hrename := (rename_updated_iff hsavedAddress hnonEmpty hsavedName).mp
        ⟨address, name, hmem⟩
      refine ⟨device, ieeeAddress, friendlyName,
        ⟨hfound, ⟨assigned, hprepare, hstorable⟩, ?_, ?_, ?_⟩, hrename⟩
      · rw [← hprotocol, hzigbee]
      · rw [← haddress, hown]
      · rw [← hkeeps device hfound, ← hname, hownName]
    · rw [saved_other_protocol hzigbee hstorable.valid] at hmem
      cases hmem
  · intro h
    obtain ⟨device, ieeeAddress, friendlyName, hupdates, hconnected, hlookup⟩ := h
    obtain ⟨hfound, ⟨assigned, hprepare, hstorable⟩, hzigbee, hown, hownName⟩ := hupdates
    have hdevice := (find_by_external_id_iff.mp hfound).1
    obtain ⟨⟨devices', saved⟩, hsave⟩ := (save_ok_iff hdevice).mpr hstorable
    obtain ⟨hsaved, -, -⟩ := save_ok hdevice hsave
    obtain ⟨haddress, hname, hprotocol⟩ := prepared_zigbee_fields hprepare
    subst hsaved
    obtain ⟨savedAddress, savedName, hnonEmpty, hdocument, hdocumentName, hsavedAddress,
      hsavedName⟩ := saved_zigbee_fields (hprotocol.trans hzigbee) hstorable.valid
    rw [haddress, hown] at hdocument
    rw [hname, hkeeps device hfound, hownName] at hdocumentName
    cases hdocument
    cases hdocumentName
    obtain ⟨address, name, hmem⟩ :=
      (rename_updated_iff hsavedAddress hnonEmpty hsavedName).mpr ⟨hconnected, hlookup⟩
    exact ⟨address, name, device, assigned, devices', _, hfound, hprepare, hsave, hmem⟩

/-! ## The rename after any messages -/

/-- Whatever the hub has handled, an update that leaves the friendly name alone publishes no rename
exactly when it is not accepted, does not leave a Zigbee device, finds no connected bridge, or the
last device list since the start reports the stored name for an eligible device. -/
theorem name_not_published_iff (devices : DeviceStore) (configs : List DeviceConfig)
    (messages : List HubMessage) (externalId : String) (dto : UpdateDeviceDto)
    (options : UpdateDeviceOptions)
    (hkeeps : KeepsFriendlyName (hubAfter devices configs messages).devices externalId dto) :
    (∀ address name, .renameDevice address name ∉
        (updateDevice (hubAfter devices configs messages) externalId dto options).effects) ↔
      ∀ device ieeeAddress friendlyName,
        UpdatesZigbeeDevice (hubAfter devices configs messages) externalId dto options device
            ieeeAddress friendlyName →
          lastConnected messages = true → ReportsName messages ieeeAddress friendlyName := by
  have hpublishes := not_congr (@publishes_name_iff _ _ _ _ options hkeeps)
  simp only [not_exists, not_and, not_not, bridge_connected_after, lookup_after_iff, ne_eq]
    at hpublishes
  exact hpublishes

end

/-! ## A report after a restart -/

/-- A report of the lamp on the desk: its brightness. -/
def brightnessReport : UpdateDeviceDto :=
  { controls := some (some (.ofAssignments [⟨"brightness", .number (.finite 40)⟩])) }

/-- The options of a report. -/
def reportOptions : UpdateDeviceOptions :=
  ⟨false, some .device⟩

/-- The bridge has connected, and it has published the list of its devices. -/
def listedMessages : List HubMessage :=
  [.bridgeHealth true, .bridgeDevices renamedLamp]

/-- After that the hub was restarted, and the bridge has connected again. -/
def restartedMessages : List HubMessage :=
  listedMessages ++ [.restarted, .bridgeHealth true]

theorem report_keeps_name (messages : List HubMessage) :
    KeepsFriendlyName (@hubAfter .unused twoLamps [] messages).devices "desk" brightnessReport :=
  fun _ _ => rfl

/-- A report of a device that is on the last list publishes nothing. -/
theorem name_not_published_iff_listed :
    KeepsFriendlyName (@hubAfter .unused twoLamps [] listedMessages).devices "desk"
        brightnessReport ∧
      ∀ address name, .renameDevice address name ∉
        (@updateDevice .unused (@hubAfter .unused twoLamps [] listedMessages) "desk"
          brightnessReport reportOptions).effects := by
  refine ⟨report_keeps_name _, (@name_not_published_iff .unused twoLamps [] listedMessages "desk"
    brightnessReport reportOptions (report_keeps_name _)).mpr ?_⟩
  intro device ieeeAddress friendlyName hupdates _
  have hdesk : findByExternalId (@hubAfter .unused twoLamps [] listedMessages).devices "desk" =
      some deskLamp := rfl
  obtain ⟨hfound, -, -, haddress, hname⟩ := hupdates
  cases hdesk.symm.trans hfound
  cases haddress
  cases hname
  exact ⟨renamedLamp, rfl, by decide +kernel⟩

/-- A rename request to the bridge. -/
def isRename : DeviceEffect → Bool
  | .renameDevice _ _ => true
  | _ => false

/-- A report after a restart publishes the stored name, whatever name the bridge holds. -/
theorem report_after_restart_publishes :
    KeepsFriendlyName (@hubAfter .unused twoLamps [] restartedMessages).devices "desk"
        brightnessReport ∧
      ¬ ∀ address name, .renameDevice address name ∉
        (@updateDevice .unused (@hubAfter .unused twoLamps [] restartedMessages) "desk"
          brightnessReport reportOptions).effects := by
  refine ⟨report_keeps_name _, fun hall => ?_⟩
  have hany : (@updateDevice .unused (@hubAfter .unused twoLamps [] restartedMessages) "desk"
      brightnessReport reportOptions).effects.any isRename = true := by decide +kernel
  obtain ⟨effect, hmem, hrename⟩ := List.any_eq_true.mp hany
  cases effect with
  | renameDevice ieeeAddress newFriendlyName => exact hall _ _ hmem
  | setControls externalId controls => cases hrename
  | deviceUpdateCompleted externalId controlsUpdated measurementsUpdated => cases hrename
  | deviceCommandExecuted externalId commands => cases hrename

end MyHomeHub.Zigbee
