import MyHomeHub.Devices.Service

/-!
# Device lists of the Zigbee bridge

The bridge publishes the list of the devices it knows. The hub keeps the eligible ones as
its pairable devices, and requests an update of every stored device whose friendly name
has drifted from the one on the list.
-/

namespace MyHomeHub.Zigbee

open JavaScript DeviceSchema DevicesService

/-- The types of a device on the bridge. The coordinator is the dongle itself. -/
inductive ZigbeeDeviceType where
  | coordinator
  | router
  | endDevice
  deriving DecidableEq, Repr

/-- How far the interview of a device is. -/
inductive InterviewState where
  | pending
  | inProgress
  | successful
  | failed
  deriving DecidableEq, Repr

/-- `ZigbeeDevice`: an entry of the list that the bridge publishes. -/
structure ZigbeeDevice where
  ieeeAddress : String
  friendlyName : String
  type : ZigbeeDeviceType := .router
  supported : Bool := true
  disabled : Bool := false
  interviewCompleted : Bool := true
  interviewState : InterviewState := .successful
  deriving DecidableEq, Repr

/-- The filter of `ZigbeePairableDevices.save`. -/
def ZigbeeDevice.isEligible (device : ZigbeeDevice) : Bool :=
  device.type ≠ .coordinator && device.supported && !device.disabled &&
    device.interviewCompleted && device.interviewState = .successful

/-- A map from the addresses of a list to its names. Of two entries with one address the later one
counts, so it stands first. -/
def namesByAddress (zigbeeDevices : List ZigbeeDevice) : List (String × String) :=
  (zigbeeDevices.map fun device => (device.ieeeAddress, device.friendlyName)).reverse

/-- `ZigbeePairableDevices.save` -/
def savePairableDevices (zigbeeDevices : List ZigbeeDevice) : List (String × String) :=
  namesByAddress (zigbeeDevices.filter (·.isEligible))

/-- `DeviceUpdateRequestedEvent` with a selector by external id. -/
structure DeviceUpdateRequestedEvent where
  externalId : String
  update : UpdateDeviceDto
  propagate : Bool := true
  origin : Option DeviceUpdateOrigin := none

/-- The options with which `onDeviceUpdated` calls `updateDevice`. -/
def DeviceUpdateRequestedEvent.options (event : DeviceUpdateRequestedEvent) :
    UpdateDeviceOptions :=
  ⟨event.propagate, event.origin⟩

/-- The name that a list reports for a stored device, if the device has drifted from it. -/
def driftedName (zigbeeDevices : List ZigbeeDevice) (device : Device) : Option String :=
  match device.zigbeeIeeeAddress with
  | .value ieeeAddress =>
      match (namesByAddress zigbeeDevices).lookup ieeeAddress with
      | some friendlyName =>
          if friendlyName = "" ∨ device.zigbeeFriendlyName = .value friendlyName then none
          else some friendlyName
      | none => none
  | _ => none

/-- `syncFriendlyNames`: the update requests that it emits. -/
def syncFriendlyNames (devices : DeviceStore) (zigbeeDevices : List ZigbeeDevice) :
    List DeviceUpdateRequestedEvent :=
  devices.docs.filterMap fun device =>
    (driftedName zigbeeDevices device).map fun friendlyName =>
      { externalId := device.externalId
        update := { zigbeeFriendlyName := some (.value friendlyName) }
        propagate := false }

/-! ## Names and addresses -/

section

variable {zigbeeDevices : List ZigbeeDevice} {ieeeAddress friendlyName : String}

/-- An entry whose key no other entry has is the one that is looked up. -/
theorem lookup_iff_mem {entries : List (String × String)} {key value : String}
    (hkeys : (entries.map Prod.fst).Nodup) :
    entries.lookup key = some value ↔ (key, value) ∈ entries := by
  rw [List.lookup_eq_some_iff]
  constructor
  · intro h
    obtain ⟨first, last, rfl, -⟩ := h
    exact List.mem_append_right _ List.mem_cons_self
  · intro h
    obtain ⟨first, last, rfl⟩ := List.append_of_mem h
    refine ⟨first, last, rfl, fun other hother => ?_⟩
    rw [List.map_append, List.map_cons] at hkeys
    have hdiffer := (List.nodup_append.mp hkeys).2.2 other.1 (List.mem_map_of_mem hother) key
      List.mem_cons_self
    exact bne_iff_ne.mpr hdiffer.symm

/-- The reported name of an address that is on the list once. -/
theorem lookup_names_by_address_iff (h : (zigbeeDevices.map (·.ieeeAddress)).Nodup) :
    (namesByAddress zigbeeDevices).lookup ieeeAddress = some friendlyName ↔
      ∃ reported ∈ zigbeeDevices, reported.ieeeAddress = ieeeAddress ∧
        reported.friendlyName = friendlyName := by
  have hkeys : ((namesByAddress zigbeeDevices).map Prod.fst).Nodup := by
    rw [namesByAddress, List.map_reverse, List.nodup_reverse, List.map_map]
    exact h
  rw [lookup_iff_mem hkeys, namesByAddress, List.mem_reverse, List.mem_map]
  simp only [Prod.mk.injEq]

/-- A device has drifted from the name that its address is looked up under. -/
theorem drifted_name_iff {device : Device} :
    driftedName zigbeeDevices device = some friendlyName ↔
      friendlyName ≠ "" ∧ device.zigbeeFriendlyName ≠ .value friendlyName ∧
        ∃ ieeeAddress, device.zigbeeIeeeAddress = .value ieeeAddress ∧
          (namesByAddress zigbeeDevices).lookup ieeeAddress = some friendlyName := by
  unfold driftedName
  cases haddress : device.zigbeeIeeeAddress with
  | undefined => simp
  | null => simp
  | value ieeeAddress =>
      simp only [Optional.value.injEq, exists_eq_left']
      cases (namesByAddress zigbeeDevices).lookup ieeeAddress with
      | none => simp
      | some reported =>
          dsimp only
          split
          · rename_i hsame
            refine iff_of_false nofun fun h => ?_
            obtain ⟨hnonEmpty, hdiffer, hreported⟩ := h
            cases hreported
            exact hsame.elim hnonEmpty hdiffer
          · rename_i hdrifted
            rw [not_or] at hdrifted
            constructor
            · intro h
              cases h
              exact ⟨hdrifted.1, hdrifted.2, rfl⟩
            · intro h
              exact h.2.2

end

end MyHomeHub.Zigbee
