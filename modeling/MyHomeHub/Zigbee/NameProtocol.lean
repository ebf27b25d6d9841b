import MyHomeHub.Library.Runs
import MyHomeHub.Zigbee.RenameRequests

/-!
# The hub and the bridge agree on names

A Zigbee device has a friendly name in the hub and one on the bridge, and both can be
changed. The hub asks the bridge for a rename when it has saved a name that is not in its
cache, and the bridge publishes its device list when a device was renamed, which makes the
hub follow the names on it. Calls, messages and handlers overlap: a call loads a device,
saves it and publishes a rename in three steps, and other steps come between.

The bridge is modelled as it is documented: it renames the device with the address of a
request unless it refuses to, and publishes its devices whenever they change. It stays
connected.
-/

namespace MyHomeHub.Zigbee

open JavaScript DeviceSchema DevicesService Library

/-! ## The parties -/

/-- The devices of the bridge. Each has an address of its own and a name. -/
structure DeviceList where
  devices : List ZigbeeDevice
  distinct : (devices.map (·.ieeeAddress)).Nodup
  named : ∀ device ∈ devices, device.friendlyName ≠ ""

/-- The devices after one was renamed. -/
def DeviceList.rename (list : DeviceList) (ieeeAddress friendlyName : String)
    (hname : friendlyName ≠ "") : DeviceList where
  devices := list.devices.map fun device =>
    if device.ieeeAddress = ieeeAddress then { device with friendlyName } else device
  distinct := by
    have hkept : list.devices.map (·.ieeeAddress) = (list.devices.map fun device =>
        if device.ieeeAddress = ieeeAddress then { device with friendlyName } else device).map
          (·.ieeeAddress) := by
      rw [List.map_map]
      refine List.map_congr_left fun device _ => ?_
      rw [Function.comp_apply]
      split <;> rfl
    exact hkept ▸ list.distinct
  named := by
    intro device hdevice
    obtain ⟨old, hold, rfl⟩ := List.mem_map.mp hdevice
    split
    · exact hname
    · exact list.named old hold

/-- How far a call of `updateDevice` has come. -/
inductive UpdateState where
  | emitted
  | loaded (device : Device)
  | saved (device : Device)

/-- A call of `updateDevice` that has not ended. -/
structure PendingUpdate where
  event : DeviceUpdateRequestedEvent
  state : UpdateState

/-- The hub, the bridge, and what is under way between them. -/
structure RenameSystem where
  devices : DeviceStore
  configs : List DeviceConfig
  /-- The list that was received last since the hub was started. -/
  lastList : Option DeviceList
  /-- The received lists with which `syncFriendlyNames` has not yet read the devices. -/
  syncs : List DeviceList
  updates : List PendingUpdate
  /-- The new devices whose name is not yet published. -/
  added : List Device
  /-- The rename requests that the bridge has not yet handled. -/
  requests : List (String × String)
  bridge : DeviceList
  /-- The lists that the bridge has published and the hub has not yet received. -/
  lists : List DeviceList

namespace RenameSystem

/-- What the devices service works on. -/
def hub (s : RenameSystem) : Hub where
  devices := s.devices
  configs := s.configs
  pairableDevices := s.lastList.elim [] fun list => savePairableDevices list.devices
  bridgeConnected := true

/-- The hub has just subscribed: the device list that the bridge has retained is on its way. -/
structure IsStart (s : RenameSystem) : Prop where
  updates : s.updates = []
  list : s.lists.getLast? = some s.bridge

/-- Nothing is under way. -/
structure IsQuiet (s : RenameSystem) : Prop where
  syncs : s.syncs = []
  updates : s.updates = []
  added : s.added = []
  requests : s.requests = []
  lists : s.lists = []

end RenameSystem

/-- The requests that are published. The bridge can do nothing with one that has no address or no
name. -/
def publishedRequests (effects : List DeviceEffect) : List (String × String) :=
  effects.filterMap fun effect =>
    match effect with
    | .renameDevice (.value ieeeAddress) (.value friendlyName) => some (ieeeAddress, friendlyName)
    | _ => none

/-- A device with other payloads. -/
def withPayloads (controls measurements : Device → DevicePayload) (device : Device) : Device :=
  { device with controls := controls device, measurements := measurements device }

theorem with_payloads_keys (controls measurements : Device → DevicePayload) (device : Device)
    (index : Device → Option (Optional String)) (hindex : index ∈ deviceIndexes) :
    index (withPayloads controls measurements device) = index device := by
  simp only [deviceIndexes, List.mem_cons, List.not_mem_nil, or_false] at hindex
  rcases hindex with rfl | rfl | rfl <;> rfl

/-! ## The steps -/

/-- What happens next. -/
inductive RenameAction where
  /-- `updateDevice` is called, by an API request or by the handler of an event. -/
  | call (event : DeviceUpdateRequestedEvent)
  /-- A call takes its next step. -/
  | advance (i : Nat)
  | addDevice (externalId : String) (dto : CreateDeviceDto) (origin : Option DeviceUpdateOrigin)
  /-- The name of a new device is published. -/
  | publishAdded (i : Nat)
  | removeDevice (externalId : String)
  /-- Another service writes the payloads of the stored devices. -/
  | writePayloads (controls measurements : Device → DevicePayload)
  | setConfigs (configs : List DeviceConfig)
  /-- The hub receives the next device list and caches it. -/
  | receiveList
  /-- `syncFriendlyNames` reads the devices and emits its requests. -/
  | sync (i : Nat)
  /-- The bridge handles the next request, or refuses it. -/
  | bridgeRename (accepts : Bool)
  /-- The devices of the bridge change otherwise. -/
  | bridgeChange (list : DeviceList)

section

variable [ExternalCalls]

/-- The update of a loaded device is stored. -/
def IsAccepted (s : RenameSystem) (event : DeviceUpdateRequestedEvent) (device : Device) : Prop :=
  ∃ assigned result, prepareUpdate s.configs device event.update event.origin = .ok assigned ∧
    save s.devices device assigned.device = .ok result

/-- What a step of a call leaves. -/
structure StepResult where
  devices : DeviceStore
  next : Option UpdateState
  published : List (String × String)

/-- The next step of a call: it loads the device, saves the updated document, or publishes the name
that it has saved. It ends there, or when it is rejected. -/
def UpdateState.step (s : RenameSystem) (event : DeviceUpdateRequestedEvent) :
    UpdateState → StepResult
  | .emitted => ⟨s.devices, (findByExternalId s.devices event.externalId).map .loaded, []⟩
  | .loaded device =>
      match prepareUpdate s.configs device event.update event.origin with
      | .error _ => ⟨s.devices, none, []⟩
      | .ok assigned =>
          match save s.devices device assigned.device with
          | .error _ => ⟨s.devices, none, []⟩
          | .ok (devices, document) => ⟨devices, some (.saved document), []⟩
  | .saved device => ⟨s.devices, none, publishedRequests (renameUpdated s.hub device)⟩

/-- A pending call takes its next step. -/
def RenameSystem.advance (s : RenameSystem) (i : Nat) (update : PendingUpdate) : RenameSystem :=
  let result := update.state.step s update.event
  { s with
    devices := result.devices
    updates := s.updates.eraseIdx i ++ (result.next.map (⟨update.event, ·⟩)).toList
    requests := s.requests ++ result.published }

/-- `addDevice` up to the point where it publishes the name. -/
def RenameSystem.add (s : RenameSystem) (externalId : String) (dto : CreateDeviceDto)
    (origin : Option DeviceUpdateOrigin) : RenameSystem :=
  let outcome := addDevice s.hub externalId dto origin
  match outcome.result with
  | .error _ => s
  | .ok saved => { s with devices := outcome.devices, added := s.added ++ [saved] }

/-- The system after an action. -/
def RenameSystem.step (s : RenameSystem) : RenameAction → RenameSystem
  | .call event => { s with updates := s.updates ++ [⟨event, .emitted⟩] }
  | .advance i =>
      match s.updates[i]? with
      | none => s
      | some update => s.advance i update
  | .addDevice externalId dto origin => s.add externalId dto origin
  | .publishAdded i =>
      match s.added[i]? with
      | none => s
      | some device =>
          let effects := if device.zigbeeFriendlyName.isNonEmpty then
            renameDevice s.hub device.zigbeeIeeeAddress device.zigbeeFriendlyName else []
          { s with
            added := s.added.eraseIdx i
            requests := s.requests ++ publishedRequests effects }
  | .removeDevice externalId =>
      { s with devices := s.devices.filter fun device => device.externalId ≠ externalId }
  | .writePayloads controls measurements =>
      let devices := s.devices.mapDocs (withPayloads controls measurements)
        (with_payloads_keys controls measurements)
      { s with devices }
  | .setConfigs configs => { s with configs }
  | .receiveList =>
      match s.lists with
      | [] => s
      | list :: lists => { s with lists, lastList := some list, syncs := s.syncs ++ [list] }
  | .sync i =>
      match s.syncs[i]? with
      | none => s
      | some list =>
          { s with
            syncs := s.syncs.eraseIdx i
            updates := s.updates ++
              (syncFriendlyNames s.devices list.devices).map (⟨·, .emitted⟩) }
  | .bridgeRename accepts =>
      match s.requests with
      | [] => s
      | (ieeeAddress, friendlyName) :: requests =>
          if hrenames : accepts = true ∧ friendlyName ≠ "" then
            let bridge := s.bridge.rename ieeeAddress friendlyName hrenames.2
            -- a device that has the name already is no news
            if bridge.devices = s.bridge.devices then { s with requests }
            else { s with requests, bridge, lists := s.lists ++ [bridge] }
          else { s with requests }
  | .bridgeChange bridge => { s with bridge, lists := s.lists ++ [bridge] }

/-- The steps of the runs that are looked at: an update of a friendly name is not rejected when it
is saved, a new device has a new external id, and the bridge refuses no request. -/
def RenameAllowed (s : RenameSystem) : RenameAction → Prop
  | .advance i => ∀ update device, s.updates[i]? = some update → update.state = .loaded device →
      update.event.update.zigbeeFriendlyName ≠ none → IsAccepted s update.event device
  | .addDevice externalId _ _ => ∀ update ∈ s.updates, update.event.externalId ≠ externalId
  | .bridgeRename accepts => accepts = true
  | _ => True

/-- One action. -/
def RenameStep (s : RenameSystem) (action : RenameAction) (t : RenameSystem) : Prop :=
  t = s.step action

variable {s : RenameSystem} {others : List PendingUpdate} {event : DeviceUpdateRequestedEvent}
  {state : UpdateState}

/-- The last of the pending calls takes a step. -/
theorem step_last (hupdates : s.updates = others ++ [⟨event, state⟩]) :
    s.step (.advance others.length) =
      { s with
        devices := (state.step s event).devices
        updates := others ++ ((state.step s event).next.map (⟨event, ·⟩)).toList
        requests := s.requests ++ (state.step s event).published } := by
  unfold RenameSystem.step
  dsimp only
  rw [hupdates, List.getElem?_concat_length]
  dsimp only [RenameSystem.advance]
  rw [hupdates, List.eraseIdx_append_of_length_le (Nat.le_refl _), Nat.sub_self]
  show RenameSystem.mk _ _ _ _ (others ++ [] ++ _) _ _ _ _ = _
  rw [List.append_nil]

theorem step_past (hupdates : s.updates = others) : s.step (.advance others.length) = s := by
  unfold RenameSystem.step
  dsimp only
  rw [hupdates, List.getElem?_eq_none (Nat.le_refl _)]

omit [ExternalCalls] in
/-- Only renames are published. -/
theorem published_append (effects others : List DeviceEffect) :
    publishedRequests (effects ++ others) = publishedRequests effects ++ publishedRequests others :=
  List.filterMap_append

omit [ExternalCalls] in
theorem published_of_set_controls (sends : Prop) [Decidable sends] (externalId : String)
    (controls : DevicePayload) :
    publishedRequests (if sends then [.setControls externalId controls] else []) = [] := by
  split <;> rfl

/-- A call whose steps come in a row stores and publishes what `updateDevice` does. -/
theorem three_steps_eq_update_device (hupdates : s.updates = others ++ [⟨event, .emitted⟩]) :
    let outcome := updateDevice s.hub event.externalId event.update event.options
    (List.replicate 3 (.advance others.length)).foldl RenameSystem.step s =
      { s with
        devices := outcome.devices
        updates := others
        requests := s.requests ++ publishedRequests outcome.effects } := by
  intro outcome
  show ((s.step (.advance others.length)).step (.advance others.length)).step
    (.advance others.length) = _
  rw [step_last hupdates]
  -- the call is rejected at one of its steps, and the steps after it do nothing, or it is not
  cases hdevice : findByExternalId s.devices event.externalId with
  | none =>
      have houtcome : outcome = ⟨s.devices, [], .error deviceNotFound⟩ := by
        simp only [outcome, updateDevice, RenameSystem.hub, hdevice]
      rw [houtcome]
      simp only [UpdateState.step, hdevice, Option.map_none, Option.toList_none, List.append_nil,
        publishedRequests, List.filterMap_nil]
      rw [step_past rfl, step_past rfl]
  | some device =>
      simp only [UpdateState.step, hdevice, Option.map_some, Option.toList_some, List.append_nil]
      rw [@step_last _ { s with updates := others ++ [⟨event, .loaded device⟩] } others event
        (.loaded device) rfl]
      cases hprepare : prepareUpdate s.configs device event.update event.origin with
      | error error =>
          have houtcome : outcome = ⟨s.devices, [], .error error⟩ := by
            have hoptions : prepareUpdate s.configs device event.update event.options.origin =
                .error error := hprepare
            simp only [outcome, updateDevice, RenameSystem.hub, hdevice, hoptions]
          rw [houtcome]
          simp only [UpdateState.step, hprepare, Option.map_none, Option.toList_none,
            List.append_nil, publishedRequests, List.filterMap_nil]
          exact step_past rfl
      | ok assigned =>
          have hoptions : prepareUpdate s.configs device event.update event.options.origin =
              .ok assigned := hprepare
          cases hsave : save s.devices device assigned.device with
          | error error =>
              simp only [UpdateState.step, hprepare, hoptions, hsave, Option.map_none,
                Option.toList_none, List.append_nil, outcome, updateDevice, RenameSystem.hub,
                hdevice]
              rw [published_of_set_controls, List.append_nil]
              exact step_past rfl
          | ok result =>
              obtain ⟨devices, saved⟩ := result
              simp only [UpdateState.step, hprepare, hsave, Option.map_some, Option.toList_some,
                List.append_nil]
              rw [@step_last _ { s with devices, updates := others ++ [⟨event, .saved saved⟩] }
                others event (.saved saved) rfl]
              simp only [UpdateState.step, Option.map_none, Option.toList_none, List.append_nil,
                outcome, updateDevice, RenameSystem.hub, hdevice, hoptions, hsave]
              rw [published_append, published_append, published_of_set_controls, List.nil_append]
              rw [show publishedRequests [.deviceUpdateCompleted _ _ _] = [] from rfl,
                List.append_nil]
              rfl

end

end MyHomeHub.Zigbee
