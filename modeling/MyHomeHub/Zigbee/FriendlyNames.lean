import MyHomeHub.Zigbee.PairableDevices

/-!
# Following the friendly names of the bridge

Each update request of `syncFriendlyNames` is handled on its own: the handler reads the
device, sets the name, and saves the document, and the steps of different handlers can
come in any order. The index on the friendly names rejects a save while another device
still holds the name, and a rejected request is not repeated.
-/

namespace MyHomeHub.Zigbee

open JavaScript DeviceSchema DevicesService Library

/-! ## Handling the requests -/

/-- Where the handler of a request is. -/
inductive HandlerState where
  | emitted
  | loaded (device : Device)
  | completed
  | rejected

/-- The handler has nothing left to do. -/
def HandlerState.IsDone : HandlerState → Prop
  | .completed | .rejected => True
  | .emitted | .loaded _ => False

section

variable [ExternalCalls]

/-- The next step of `onDeviceUpdated`: it reads the device, or it saves the updated document. -/
def HandlerState.step (configs : List DeviceConfig) (event : DeviceUpdateRequestedEvent)
    (devices : DeviceStore) : HandlerState → DeviceStore × HandlerState
  | .emitted =>
      match findByExternalId devices event.externalId with
      | none => (devices, .rejected)
      | some device => (devices, .loaded device)
  | .loaded device =>
      match prepareUpdate configs device event.update event.origin with
      | .error _ => (devices, .rejected)
      | .ok assigned =>
          match save devices device assigned.device with
          | .error _ => (devices, .rejected)
          | .ok (devices, _) => (devices, .completed)
  | .completed => (devices, .completed)
  | .rejected => (devices, .rejected)

/-- Both steps in a row store what `updateDevice` stores. -/
theorem two_steps_eq_update_device (hub : Hub) (event : DeviceUpdateRequestedEvent) :
    let step := fun state : DeviceStore × HandlerState =>
      state.2.step hub.configs event state.1
    (step (step (hub.devices, .emitted))).1 =
      (updateDevice hub event.externalId event.update event.options).devices := by
  simp only [HandlerState.step, updateDevice, DeviceUpdateRequestedEvent.options]
  cases hdevice : findByExternalId hub.devices event.externalId with
  | none => rfl
  | some device =>
      dsimp only
      cases prepareUpdate hub.configs device event.update event.origin with
      | error error => rfl
      | ok assigned =>
          dsimp only
          cases save hub.devices device assigned.device with
          | error error => rfl
          | ok result => rfl

/-- The stored devices, and the handlers by the external ids of their requests. -/
structure Handlers where
  devices : DeviceStore
  states : String → HandlerState

/-- The handler of one request takes its next step. -/
def Handlers.step (configs : List DeviceConfig) (events : List DeviceUpdateRequestedEvent)
    (handlers : Handlers) (externalId : String) : Handlers :=
  match events.find? fun event => event.externalId = externalId with
  | none => handlers
  | some event =>
      let (devices, state) := (handlers.states externalId).step configs event handlers.devices
      ⟨devices, Function.update handlers.states externalId state⟩

/-- The handlers take turns as a schedule says. -/
def Handlers.run (configs : List DeviceConfig) (events : List DeviceUpdateRequestedEvent)
    (handlers : Handlers) (schedule : List String) : Handlers :=
  schedule.foldl (Handlers.step configs events) handlers

omit [ExternalCalls] in
/-- All requests have been handled. -/
def Handlers.AllDone (events : List DeviceUpdateRequestedEvent) (handlers : Handlers) : Prop :=
  ∀ event ∈ events, (handlers.states event.externalId).IsDone

/-- The handlers of the requests that a device list leads to, after the steps of a schedule. -/
def syncAfter (configs : List DeviceConfig) (devices : DeviceStore)
    (zigbeeDevices : List ZigbeeDevice) (schedule : List String) : Handlers :=
  Handlers.run configs (syncFriendlyNames devices zigbeeDevices) ⟨devices, fun _ => .emitted⟩
    schedule

end

/-- Every stored device whose address is on the list has the name that the list reports. -/
def HoldReportedNames (zigbeeDevices : List ZigbeeDevice) (devices : DeviceStore) : Prop :=
  ∀ device ∈ devices, ∀ reported ∈ zigbeeDevices,
    device.zigbeeIeeeAddress = .value reported.ieeeAddress →
      device.zigbeeFriendlyName = .value reported.friendlyName

/-! ## Renaming one device -/

/-- The document that the handler of a request saves. -/
def renamedDevice (device : Device) (friendlyName : String) : Device :=
  dropScopedDependencyFields (some device) { device with zigbeeFriendlyName := .value friendlyName }

variable {configs : List DeviceConfig} {devices devices' start : DeviceStore}
  {zigbeeDevices : List ZigbeeDevice} {device other : Device} {friendlyName externalId : String}
  {handlers : Handlers} {event : DeviceUpdateRequestedEvent} {schedule : List String}

/-- A request with a name sets the name, whatever the configs are. -/
theorem prepare_rename [ExternalCalls] {origin : Option DeviceUpdateOrigin} :
    prepareUpdate configs device { zigbeeFriendlyName := some (.value friendlyName) } origin =
      .ok ⟨{ device with zigbeeFriendlyName := .value friendlyName }, none, none⟩ :=
  rfl

/-- A name that the device has drifted from is written explicitly, so it is not dropped. -/
theorem renamed_friendly_name (h : driftedName zigbeeDevices device = some friendlyName) :
    (renamedDevice device friendlyName).zigbeeFriendlyName = .value friendlyName := by
  have hdiffer := (drifted_name_iff.mp h).2.1
  have hmodified : isDirectModified (some device)
      { device with zigbeeFriendlyName := .value friendlyName } (·.zigbeeFriendlyName) = true :=
    decide_eq_true hdiffer
  unfold renamedDevice dropScopedDependencyFields
  simp [hmodified]

/-- A document with a name obeys the schema only if it has an address, and that is the old one. -/
theorem renamed_address (hdrifted : driftedName zigbeeDevices device = some friendlyName)
    (hvalid : invalidPaths (renamedDevice device friendlyName) = []) :
    (renamedDevice device friendlyName).zigbeeIeeeAddress = device.zigbeeIeeeAddress := by
  have hrule := (zigbee_rules_of_valid hvalid).1
  rw [renamed_friendly_name hdrifted] at hrule
  simp only [isConditionalText, Bool.and_eq_true] at hrule
  have hnonEmpty := hrule.1.1
  unfold renamedDevice dropScopedDependencyFields at hnonEmpty ⊢
  dsimp only at hnonEmpty ⊢
  split at hnonEmpty
  · cases hnonEmpty
  · rename_i hkept
    exact if_neg hkept

/-- A saved document takes the place of the device. -/
theorem save_renamed (hmem : device ∈ devices) {saved : Device}
    (h : save devices device { device with zigbeeFriendlyName := .value friendlyName } =
      .ok (devices', saved)) :
    invalidPaths (renamedDevice device friendlyName) = [] ∧
      ∀ other, other ∈ devices' ↔ other = renamedDevice device friendlyName ∨
        (other ∈ devices ∧ other.externalId ≠ device.externalId) := by
  obtain ⟨rfl, hvalid, hafter⟩ := save_ok hmem h
  have hwritten : writeModified device (renamedDevice device friendlyName) device =
      renamedDevice device friendlyName := by
    have hpayload (payload : DevicePayload) : writtenPayload payload payload payload = payload :=
      ite_self _
    simp only [writeModified, written_field_same]
    exact congr (congrArg _ (hpayload _)) (hpayload _)
  refine ⟨hvalid, fun other => ?_⟩
  rw [← hwritten]
  exact hafter other

/-! ## The requests -/

/-- A request is for a device that has drifted, and carries the name it has drifted from. -/
theorem event_iff : event ∈ syncFriendlyNames start zigbeeDevices ↔
    ∃ device ∈ start, ∃ friendlyName, driftedName zigbeeDevices device = some friendlyName ∧
      event = {
        externalId := device.externalId
        update := { zigbeeFriendlyName := some (.value friendlyName) }
        propagate := false } := by
  simp only [syncFriendlyNames, List.mem_filterMap, Option.map_eq_some_iff, @eq_comm _ event]
  rfl

theorem eq_of_external_id (hdevice : device ∈ devices) (hother : other ∈ devices)
    (hid : other.externalId = device.externalId) : other = device :=
  Collection.eq_of_key external_id_key_mem hother hdevice (external_id_key_eq.mpr hid)
    (external_id_key_eq.mpr rfl)

/-- The request that is found for a device is the one with its name. -/
theorem find_event (hdevice : device ∈ start)
    (hdrifted : driftedName zigbeeDevices device = some friendlyName) :
    (syncFriendlyNames start zigbeeDevices).find? (fun event =>
        event.externalId = device.externalId) = some {
      externalId := device.externalId
      update := { zigbeeFriendlyName := some (.value friendlyName) }
      propagate := false } := by
  cases hfind : (syncFriendlyNames start zigbeeDevices).find? fun event =>
      event.externalId = device.externalId with
  | none =>
      have hevent := List.find?_eq_none.mp hfind _
        (event_iff.mpr ⟨device, hdevice, friendlyName, hdrifted, rfl⟩)
      exact absurd (decide_eq_true rfl) hevent
  | some event =>
      obtain ⟨found, hfound, name, hname, rfl⟩ := event_iff.mp (List.mem_of_find?_eq_some hfind)
      have hfoundId := List.find?_some hfind
      have hid : found.externalId = device.externalId := of_decide_eq_true hfoundId
      rw [eq_of_external_id hdevice hfound hid, hdrifted] at hname
      cases hname
      rw [hid]

/-! ## The stored devices during the handling -/

/-- What a device is while its request is handled: renamed once the handler has completed. -/
def currentDevice (zigbeeDevices : List ZigbeeDevice) (states : String → HandlerState)
    (device : Device) : Device :=
  match driftedName zigbeeDevices device, states device.externalId with
  | some friendlyName, .completed => renamedDevice device friendlyName
  | _, _ => device

/-- The stored devices are the initial ones, some of them renamed, and a handler has loaded the
initial device. -/
structure DuringSync (start : DeviceStore) (zigbeeDevices : List ZigbeeDevice)
    (handlers : Handlers) : Prop where
  stored : ∀ device, device ∈ handlers.devices ↔
    ∃ initial ∈ start, device = currentDevice zigbeeDevices handlers.states initial
  loaded : ∀ externalId device, handlers.states externalId = .loaded device →
    device ∈ start ∧ device.externalId = externalId
  valid : ∀ device ∈ start, ∀ friendlyName, driftedName zigbeeDevices device = some friendlyName →
    handlers.states device.externalId = .completed →
      invalidPaths (renamedDevice device friendlyName) = []

theorem current_of_not_completed {states : String → HandlerState}
    (h : states device.externalId ≠ .completed) :
    currentDevice zigbeeDevices states device = device := by
  unfold currentDevice
  split
  · rename_i hcompleted
    exact absurd hcompleted h
  · rfl

theorem current_external_id {states : String → HandlerState} :
    (currentDevice zigbeeDevices states device).externalId = device.externalId := by
  unfold currentDevice
  split <;> rfl

/-- A step of one handler is no matter of the other devices. -/
theorem current_update_other {states : String → HandlerState} {state : HandlerState}
    (h : device.externalId ≠ externalId) :
    currentDevice zigbeeDevices (Function.update states externalId state) device =
      currentDevice zigbeeDevices states device := by
  unfold currentDevice
  rw [Function.update_of_ne h]

/-- A step that completes no handler changes no device. -/
theorem current_update_same {states : String → HandlerState} {state : HandlerState}
    (hbefore : states externalId ≠ .completed) (hafter : state ≠ .completed) :
    currentDevice zigbeeDevices (Function.update states externalId state) device =
      currentDevice zigbeeDevices states device := by
  by_cases hid : device.externalId = externalId
  · subst hid
    rw [current_of_not_completed hbefore, current_of_not_completed]
    rw [Function.update_self]
    exact hafter
  · exact current_update_other hid

/-- A handler that does not complete leaves the stored devices as they are. -/
theorem DuringSync.advance (h : DuringSync start zigbeeDevices handlers) {state : HandlerState}
    (hbefore : handlers.states externalId ≠ .completed) (hafter : state ≠ .completed)
    (hloaded : ∀ device, state = .loaded device → device ∈ start ∧ device.externalId = externalId) :
    DuringSync start zigbeeDevices
      ⟨handlers.devices, Function.update handlers.states externalId state⟩ := by
  constructor
  · intro device
    rw [h.stored]
    simp only [current_update_same hbefore hafter]
  · intro other device hstate
    by_cases hid : other = externalId
    · subst hid
      dsimp only at hstate
      rw [Function.update_self] at hstate
      exact hloaded device hstate
    · dsimp only at hstate
      rw [Function.update_of_ne hid] at hstate
      exact h.loaded other device hstate
  · intro device hdevice friendlyName hdrifted hstate
    refine h.valid device hdevice friendlyName hdrifted ?_
    by_cases hid : device.externalId = externalId
    · subst hid
      dsimp only at hstate
      rw [Function.update_self] at hstate
      exact absurd hstate hafter
    · dsimp only at hstate
      rwa [Function.update_of_ne hid] at hstate

/-- A handler that completes renames its device. -/
theorem DuringSync.complete (h : DuringSync start zigbeeDevices handlers) (hdevice : device ∈ start)
    (hdrifted : driftedName zigbeeDevices device = some friendlyName)
    (hvalid : invalidPaths (renamedDevice device friendlyName) = [])
    (hstored : ∀ other, other ∈ devices' ↔ other = renamedDevice device friendlyName ∨
      (other ∈ handlers.devices ∧ other.externalId ≠ device.externalId)) :
    DuringSync start zigbeeDevices
      ⟨devices', Function.update handlers.states device.externalId .completed⟩ := by
  have hcurrent : currentDevice zigbeeDevices
      (Function.update handlers.states device.externalId .completed) device =
        renamedDevice device friendlyName := by
    unfold currentDevice
    rw [hdrifted, Function.update_self]
  constructor
  · intro other
    rw [hstored]
    constructor
    · intro hother
      rcases hother with rfl | ⟨hother, hid⟩
      · exact ⟨device, hdevice, hcurrent.symm⟩
      · obtain ⟨initial, hinitial, rfl⟩ := (h.stored other).mp hother
        rw [current_external_id] at hid
        exact ⟨initial, hinitial, (current_update_other hid).symm⟩
    · intro hother
      obtain ⟨initial, hinitial, rfl⟩ := hother
      by_cases hid : initial.externalId = device.externalId
      · rw [eq_of_external_id hdevice hinitial hid]
        exact .inl hcurrent
      · refine .inr ⟨(h.stored _).mpr ⟨initial, hinitial, current_update_other hid⟩, ?_⟩
        rw [current_external_id]
        exact hid
  · intro other loaded hstate
    by_cases hid : other = device.externalId
    · subst hid
      dsimp only at hstate
      rw [Function.update_self] at hstate
      cases hstate
    · dsimp only at hstate
      rw [Function.update_of_ne hid] at hstate
      exact h.loaded other loaded hstate
  · intro other hother name hname hstate
    by_cases hid : other.externalId = device.externalId
    · rw [eq_of_external_id hdevice hother hid, hdrifted] at hname
      cases hname
      rw [eq_of_external_id hdevice hother hid]
      exact hvalid
    · dsimp only at hstate
      rw [Function.update_of_ne hid] at hstate
      exact h.valid other hother name hname hstate

/-! ## One step -/

section

variable [ExternalCalls] (configs)

/-- A step is about a device that has drifted, or it does nothing. -/
theorem step_unknown
    (h : ∀ device ∈ start, device.externalId = externalId →
      driftedName zigbeeDevices device = none) :
    handlers.step configs (syncFriendlyNames start zigbeeDevices) externalId = handlers := by
  unfold Handlers.step
  split
  · rfl
  · rename_i event hfind
    obtain ⟨device, hdevice, name, hname, rfl⟩ := event_iff.mp (List.mem_of_find?_eq_some hfind)
    have hfoundId := List.find?_some hfind
    rw [h device hdevice (of_decide_eq_true hfoundId)] at hname
    cases hname

/-- The first step of a handler loads its device. -/
theorem step_emitted (h : DuringSync start zigbeeDevices handlers) (hdevice : device ∈ start)
    (hdrifted : driftedName zigbeeDevices device = some friendlyName)
    (hstate : handlers.states device.externalId = .emitted) :
    handlers.step configs (syncFriendlyNames start zigbeeDevices) device.externalId =
      ⟨handlers.devices,
        Function.update handlers.states device.externalId (.loaded device)⟩ := by
  have hcurrent : currentDevice zigbeeDevices handlers.states device = device :=
    current_of_not_completed (by rw [hstate]; exact nofun)
  have hfound : findByExternalId handlers.devices device.externalId = some device :=
    find_by_external_id_iff.mpr ⟨(h.stored device).mpr ⟨device, hdevice, hcurrent.symm⟩, rfl⟩
  rw [Handlers.step, find_event hdevice hdrifted, hstate]
  simp only [HandlerState.step, hfound]

/-- The second step saves the device under the new name if it can be stored. -/
theorem step_loaded {loaded : Device} (h : DuringSync start zigbeeDevices handlers)
    (hdevice : device ∈ start) (hdrifted : driftedName zigbeeDevices device = some friendlyName)
    (hstate : handlers.states device.externalId = .loaded loaded) :
    (Storable handlers.devices device (renamedDevice device friendlyName) ∧
      ∃ devices', handlers.step configs (syncFriendlyNames start zigbeeDevices)
          device.externalId =
            ⟨devices', Function.update handlers.states device.externalId .completed⟩ ∧
        ∀ other, other ∈ devices' ↔ other = renamedDevice device friendlyName ∨
          (other ∈ handlers.devices ∧ other.externalId ≠ device.externalId)) ∨
    (¬ Storable handlers.devices device (renamedDevice device friendlyName) ∧
      handlers.step configs (syncFriendlyNames start zigbeeDevices) device.externalId =
        ⟨handlers.devices,
          Function.update handlers.states device.externalId .rejected⟩) := by
  obtain ⟨hloaded, hid⟩ := h.loaded _ _ hstate
  obtain rfl := eq_of_external_id hdevice hloaded hid
  have hcurrent : currentDevice zigbeeDevices handlers.states loaded = loaded :=
    current_of_not_completed (by rw [hstate]; exact nofun)
  have hmem : loaded ∈ handlers.devices := (h.stored loaded).mpr ⟨loaded, hdevice, hcurrent.symm⟩
  have hsaves := @save_ok_iff _ _ { loaded with zigbeeFriendlyName := .value friendlyName } hmem
  rw [Handlers.step, find_event hdevice hdrifted, hstate]
  simp only [HandlerState.step, prepare_rename]
  cases hsave : save handlers.devices loaded
      { loaded with zigbeeFriendlyName := .value friendlyName } with
  | error error =>
      refine .inr ⟨fun hstorable => ?_, rfl⟩
      obtain ⟨result, hresult⟩ := hsaves.mpr hstorable
      rw [hsave] at hresult
      cases hresult
  | ok result =>
      obtain ⟨devices', saved⟩ := result
      exact .inl ⟨hsaves.mp ⟨_, hsave⟩, devices', rfl, (save_renamed hmem hsave).2⟩

/-- A handler that is done does nothing. -/
theorem step_done (h : (handlers.states externalId).IsDone) :
    handlers.step configs (syncFriendlyNames start zigbeeDevices) externalId = handlers := by
  have hunchanged (state : HandlerState) (hstate : handlers.states externalId = state) :
      (⟨handlers.devices, Function.update handlers.states externalId state⟩ : Handlers) =
        handlers := by
    rw [← hstate, Function.update_eq_self]
  unfold Handlers.step
  split
  · rfl
  · cases hstate : handlers.states externalId with
    | emitted =>
        rw [hstate] at h
        exact h.elim
    | loaded device =>
        rw [hstate] at h
        exact h.elim
    | completed => exact hunchanged .completed hstate
    | rejected => exact hunchanged .rejected hstate

omit [ExternalCalls] in
/-- What a step of a handler can do. -/
inductive SyncStep (start : DeviceStore) (zigbeeDevices : List ZigbeeDevice) (handlers : Handlers)
    (externalId : String) : Handlers → Prop where
  | nothing : SyncStep start zigbeeDevices handlers externalId handlers
  | loads (device : Device) :
      device ∈ start → device.externalId = externalId → handlers.states externalId = .emitted →
      SyncStep start zigbeeDevices handlers externalId
        ⟨handlers.devices, Function.update handlers.states externalId (.loaded device)⟩
  | completes (device : Device) (friendlyName : String) (devices' : DeviceStore) :
      device ∈ start → device.externalId = externalId →
      driftedName zigbeeDevices device = some friendlyName →
      Storable handlers.devices device (renamedDevice device friendlyName) →
      (∀ other, other ∈ devices' ↔ other = renamedDevice device friendlyName ∨
        (other ∈ handlers.devices ∧ other.externalId ≠ device.externalId)) →
      SyncStep start zigbeeDevices handlers externalId
        ⟨devices', Function.update handlers.states externalId .completed⟩
  | rejects (device : Device) (friendlyName : String) (loaded : Device) :
      device ∈ start → device.externalId = externalId →
      driftedName zigbeeDevices device = some friendlyName →
      ¬ Storable handlers.devices device (renamedDevice device friendlyName) →
      handlers.states externalId = .loaded loaded →
      SyncStep start zigbeeDevices handlers externalId
        ⟨handlers.devices, Function.update handlers.states externalId .rejected⟩

theorem sync_step (h : DuringSync start zigbeeDevices handlers)
    (externalId : String) :
    SyncStep start zigbeeDevices handlers externalId
      (handlers.step configs (syncFriendlyNames start zigbeeDevices) externalId) := by
  by_cases hknown : ∃ device ∈ start, device.externalId = externalId ∧
      ∃ friendlyName, driftedName zigbeeDevices device = some friendlyName
  · obtain ⟨device, hdevice, rfl, friendlyName, hdrifted⟩ := hknown
    cases hstate : handlers.states device.externalId with
    | emitted =>
        rw [step_emitted configs h hdevice hdrifted hstate]
        exact .loads device hdevice rfl hstate
    | loaded loaded =>
        rcases step_loaded configs h hdevice hdrifted hstate with
          ⟨hstorable, devices', hstep, hstored⟩ | ⟨hnot, hstep⟩
        · rw [hstep]
          exact .completes device friendlyName devices' hdevice rfl hdrifted hstorable hstored
        · rw [hstep]
          exact .rejects device friendlyName loaded hdevice rfl hdrifted hnot hstate
    | completed =>
        have hdone : (handlers.states device.externalId).IsDone := by
          rw [hstate]
          exact True.intro
        rw [step_done configs hdone]
        exact .nothing
    | rejected =>
        have hdone : (handlers.states device.externalId).IsDone := by
          rw [hstate]
          exact True.intro
        rw [step_done configs hdone]
        exact .nothing
  · rw [step_unknown configs fun device hdevice hid => ?_]
    · exact .nothing
    · cases hdrifted : driftedName zigbeeDevices device with
      | none => rfl
      | some friendlyName => exact absurd ⟨device, hdevice, hid, friendlyName, hdrifted⟩ hknown

/-- A step renames devices at most. -/
theorem during_sync_step (h : DuringSync start zigbeeDevices handlers) (externalId : String) :
    DuringSync start zigbeeDevices
      (handlers.step configs (syncFriendlyNames start zigbeeDevices) externalId) := by
  have hstep := sync_step configs h externalId
  generalize handlers.step configs (syncFriendlyNames start zigbeeDevices) externalId = next
    at hstep ⊢
  cases hstep with
  | nothing => exact h
  | loads device hdevice hid hstate =>
      refine h.advance (by rw [hstate]; exact nofun) nofun fun loaded hloaded => ?_
      cases hloaded
      exact ⟨hdevice, hid⟩
  | completes device friendlyName devices' hdevice hid hdrifted hstorable hstored =>
      subst hid
      exact h.complete hdevice hdrifted hstorable.valid hstored
  | rejects device friendlyName loaded hdevice hid hdrifted hnot hstate =>
      refine h.advance (by rw [hstate]; exact nofun) nofun fun loaded hloaded => ?_
      cases hloaded

/-! ## The end of a run -/

omit [ExternalCalls] in
theorem during_sync_start : DuringSync start zigbeeDevices ⟨start, fun _ => .emitted⟩ := by
  constructor
  · intro device
    constructor
    · intro hdevice
      have hcurrent : currentDevice zigbeeDevices (fun _ => .emitted) device = device :=
        current_of_not_completed nofun
      exact ⟨device, hdevice, hcurrent.symm⟩
    · intro hdevice
      obtain ⟨initial, hinitial, rfl⟩ := hdevice
      have hcurrent : currentDevice zigbeeDevices (fun _ => .emitted) initial = initial :=
        current_of_not_completed nofun
      rw [hcurrent]
      exact hinitial
  · intro externalId device hstate
    cases hstate
  · intro device _ name _ hstate
    cases hstate

theorem during_sync_run (h : DuringSync start zigbeeDevices handlers) :
    DuringSync start zigbeeDevices
      (handlers.run configs (syncFriendlyNames start zigbeeDevices) schedule) := by
  induction schedule generalizing handlers with
  | nil => exact h
  | cons externalId schedule ih => exact ih (during_sync_step configs h externalId)

omit [ExternalCalls] in
/-- The devices hold the reported names when the handlers of all that have drifted completed. -/
theorem hold_reported_names_iff (haddresses : (zigbeeDevices.map (·.ieeeAddress)).Nodup)
    (hnames : ∀ reported ∈ zigbeeDevices, reported.friendlyName ≠ "")
    (h : DuringSync start zigbeeDevices handlers) :
    HoldReportedNames zigbeeDevices handlers.devices ↔
      ∀ device ∈ start, ∀ friendlyName, driftedName zigbeeDevices device = some friendlyName →
        handlers.states device.externalId = .completed := by
  constructor
  · intro hhold device hdevice friendlyName hdrifted
    by_contra hnot
    obtain ⟨-, hdiffer, ieeeAddress, haddress, hlookup⟩ := drifted_name_iff.mp hdrifted
    obtain ⟨reported, hreported, rfl, rfl⟩ := (lookup_names_by_address_iff haddresses).mp hlookup
    have hmem : device ∈ handlers.devices :=
      (h.stored device).mpr ⟨device, hdevice, (current_of_not_completed hnot).symm⟩
    exact hdiffer (hhold device hmem reported hreported haddress)
  · intro hcompleted device hdevice reported hreported haddress
    obtain ⟨initial, hinitial, rfl⟩ := (h.stored device).mp hdevice
    have hlookup := (lookup_names_by_address_iff haddresses).mpr ⟨reported, hreported, rfl, rfl⟩
    cases hdrifted : driftedName zigbeeDevices initial with
    | none =>
        -- the device had the reported name all the time
        have hcurrent : currentDevice zigbeeDevices handlers.states initial = initial := by
          unfold currentDevice
          rw [hdrifted]
        rw [hcurrent] at haddress ⊢
        by_contra hdiffer
        have hsome := drifted_name_iff.mpr
          ⟨hnames reported hreported, hdiffer, _, haddress, hlookup⟩
        rw [hdrifted] at hsome
        cases hsome
    | some friendlyName =>
        have hstate := hcompleted initial hinitial friendlyName hdrifted
        have hcurrent : currentDevice zigbeeDevices handlers.states initial =
            renamedDevice initial friendlyName := by
          unfold currentDevice
          rw [hdrifted, hstate]
        have hvalid := h.valid initial hinitial friendlyName hdrifted hstate
        rw [hcurrent, renamed_address hdrifted hvalid] at haddress
        obtain ⟨-, -, ieeeAddress, hown, hownLookup⟩ := drifted_name_iff.mp hdrifted
        rw [hown, Optional.value.injEq] at haddress
        rw [haddress, hlookup] at hownLookup
        cases hownLookup
        rw [hcurrent]
        exact renamed_friendly_name hdrifted

/-! ## Names that are free -/

/-- The device can be saved under the name, and no other device holds the name or is to get it. -/
def CanFollow (devices : DeviceStore) (zigbeeDevices : List ZigbeeDevice) (device : Device)
    (friendlyName : String) : Prop :=
  invalidPaths (renamedDevice device friendlyName) = [] ∧
    ∀ other ∈ devices, other.externalId ≠ device.externalId →
      other.zigbeeFriendlyName ≠ .value friendlyName ∧
        driftedName zigbeeDevices other ≠ some friendlyName

omit [ExternalCalls] in
/-- A name that is free at the start stays free until its device gets it. -/
theorem storable_of_can_follow (h : DuringSync start zigbeeDevices handlers)
    (hdevice : device ∈ start) (hdrifted : driftedName zigbeeDevices device = some friendlyName)
    (hfollows : CanFollow start zigbeeDevices device friendlyName) :
    Storable handlers.devices device (renamedDevice device friendlyName) := by
  obtain ⟨hvalid, hfree⟩ := hfollows
  refine ⟨hvalid, fun other hother hid => ?_, fun other hother hid => .inr ?_⟩
  · obtain ⟨initial, hinitial, rfl⟩ := (h.stored other).mp hother
    rw [current_external_id] at hid
    have hdiffer := Collection.keys_differ_of_other hdevice hinitial (external_id_key_eq.mpr rfl)
      fun hsame => hid (external_id_key_eq.mp hsame)
    have hname : (currentDevice zigbeeDevices handlers.states initial).name = initial.name := by
      unfold currentDevice
      split <;> rfl
    rw [hname]
    exact (keys_differ_iff.mp hdiffer).2.1
  · obtain ⟨initial, hinitial, rfl⟩ := (h.stored other).mp hother
    rw [current_external_id] at hid
    obtain ⟨hholds, hgets⟩ := hfree initial hinitial hid
    rw [renamed_friendly_name hdrifted]
    unfold currentDevice
    split
    · rename_i name hname hstate
      rw [renamed_friendly_name hname]
      intro hsame
      cases hsame
      exact hgets hname
    · exact hholds.symm

/-- If every name is free, no handler is rejected. -/
theorem run_not_rejected (h : DuringSync start zigbeeDevices handlers)
    (hfollow : ∀ device ∈ start, ∀ friendlyName,
      driftedName zigbeeDevices device = some friendlyName →
        CanFollow start zigbeeDevices device friendlyName)
    (hstates : ∀ externalId, handlers.states externalId ≠ .rejected) (externalId : String) :
    (handlers.run configs (syncFriendlyNames start zigbeeDevices) schedule).states externalId ≠
      .rejected := by
  induction schedule generalizing handlers with
  | nil => exact hstates externalId
  | cons turn schedule ih =>
      refine ih (during_sync_step configs h turn) fun key => ?_
      have hupdate {devices : DeviceStore} {state : HandlerState} (hstate : state ≠ .rejected) :
          (⟨devices, Function.update handlers.states turn state⟩ : Handlers).states key ≠
            .rejected := by
        by_cases hkey : key = turn
        · subst hkey
          dsimp only
          rw [Function.update_self]
          exact hstate
        · dsimp only
          rw [Function.update_of_ne hkey]
          exact hstates key
      have hstep := sync_step configs h turn
      generalize handlers.step configs (syncFriendlyNames start zigbeeDevices) turn = next
        at hstep ⊢
      cases hstep with
      | nothing => exact hstates key
      | loads device hdevice hid hstate => exact hupdate nofun
      | completes device friendlyName devices' hdevice hid hdrifted hstorable hstored =>
          exact hupdate nofun
      | rejects device friendlyName loaded hdevice hid hdrifted hnot hstate =>
          exact absurd (storable_of_can_follow h hdevice hdrifted
            (hfollow device hdevice friendlyName hdrifted)) hnot

/-! ## A run in which one device comes first -/

/-- A handler that is done stays as it is. -/
theorem step_state_kept {turn : String} (h : (handlers.states externalId).IsDone) :
    (handlers.step configs (syncFriendlyNames start zigbeeDevices) turn).states externalId =
      handlers.states externalId := by
  by_cases hturn : turn = externalId
  · subst hturn
    rw [step_done configs h]
  · unfold Handlers.step
    split
    · rfl
    · exact Function.update_of_ne (Ne.symm hturn) _ _

theorem run_state_kept (h : (handlers.states externalId).IsDone) :
    (handlers.run configs (syncFriendlyNames start zigbeeDevices) schedule).states externalId =
      handlers.states externalId := by
  induction schedule generalizing handlers with
  | nil => rfl
  | cons turn schedule ih =>
      have hkept : (handlers.step configs (syncFriendlyNames start zigbeeDevices) turn).states
          externalId = handlers.states externalId := step_state_kept configs h
      exact (ih (hkept ▸ h)).trans hkept

/-- The second step ends a handler. -/
theorem loaded_step_done {loaded : Device} (h : DuringSync start zigbeeDevices handlers)
    (hdevice : device ∈ start) (hdrifted : driftedName zigbeeDevices device = some friendlyName)
    (hstate : handlers.states device.externalId = .loaded loaded) :
    ((handlers.step configs (syncFriendlyNames start zigbeeDevices)
      device.externalId).states device.externalId).IsDone := by
  have hupdate {devices : DeviceStore} {state : HandlerState} (hdone : state.IsDone) :
      ((⟨devices, Function.update handlers.states device.externalId state⟩ : Handlers).states
        device.externalId).IsDone := by
    dsimp only
    rw [Function.update_self]
    exact hdone
  rcases step_loaded configs h hdevice hdrifted hstate with
    ⟨-, devices', hstep, -⟩ | ⟨-, hstep⟩
  · rw [hstep]
    exact hupdate True.intro
  · rw [hstep]
    exact hupdate True.intro

/-- After two of its steps a handler is done. -/
theorem two_steps_done (h : DuringSync start zigbeeDevices handlers) (hdevice : device ∈ start)
    (hdrifted : driftedName zigbeeDevices device = some friendlyName) :
    ((handlers.run configs (syncFriendlyNames start zigbeeDevices)
      [device.externalId, device.externalId]).states device.externalId).IsDone := by
  have hkept (hdone : (handlers.states device.externalId).IsDone) :
      ((handlers.run configs (syncFriendlyNames start zigbeeDevices)
        [device.externalId, device.externalId]).states device.externalId).IsDone := by
    rw [run_state_kept configs hdone]
    exact hdone
  cases hstate : handlers.states device.externalId with
  | emitted =>
      refine loaded_step_done configs (during_sync_step configs h device.externalId) hdevice
        hdrifted (?_ : _ = HandlerState.loaded device)
      rw [step_emitted configs h hdevice hdrifted hstate]
      exact Function.update_self _ _ _
  | loaded loaded =>
      have hdone := loaded_step_done configs h hdevice hdrifted hstate
      refine cast (congrArg HandlerState.IsDone ?_) hdone
      exact (step_state_kept configs hdone).symm
  | completed => exact hkept (by rw [hstate]; exact True.intro)
  | rejected => exact hkept (by rw [hstate]; exact True.intro)

omit [ExternalCalls] in
/-- Every handler takes its two steps in a row. -/
def inTurn (events : List DeviceUpdateRequestedEvent) : List String :=
  events.flatMap fun event => [event.externalId, event.externalId]

theorem in_turn_all_done {events : List DeviceUpdateRequestedEvent}
    (h : DuringSync start zigbeeDevices handlers)
    (hevents : ∀ event ∈ events, event ∈ syncFriendlyNames start zigbeeDevices) :
    (handlers.run configs (syncFriendlyNames start zigbeeDevices) (inTurn events)).AllDone
      events := by
  induction events generalizing handlers with
  | nil =>
      intro event hevent
      cases hevent
  | cons first events ih =>
      obtain ⟨device, hdevice, friendlyName, hdrifted, hfirst⟩ :=
        event_iff.mp (hevents first List.mem_cons_self)
      have hid : first.externalId = device.externalId := by rw [hfirst]
      have hdone := two_steps_done configs h hdevice hdrifted
      have hrun : handlers.run configs (syncFriendlyNames start zigbeeDevices)
          (inTurn (first :: events)) =
            (handlers.run configs (syncFriendlyNames start zigbeeDevices)
              [device.externalId, device.externalId]).run configs
                (syncFriendlyNames start zigbeeDevices) (inTurn events) := by
        rw [inTurn, List.flatMap_cons, hid, Handlers.run, List.foldl_append]
        rfl
      rw [hrun]
      intro event hevent
      rcases List.mem_cons.mp hevent with rfl | hrest
      · rw [hid, run_state_kept configs hdone]
        exact hdone
      · exact ih (during_sync_run configs h)
          (fun event hevent => hevents event (List.mem_cons_of_mem _ hevent)) event hrest

/-- The device that comes first is saved only if it can be stored at the start. -/
theorem storable_of_first_completed (hdevice : device ∈ start)
    (hdrifted : driftedName zigbeeDevices device = some friendlyName)
    (hstate : (syncAfter configs start zigbeeDevices
      [device.externalId, device.externalId]).states device.externalId = .completed) :
    Storable start device (renamedDevice device friendlyName) := by
  have hstart : DuringSync start zigbeeDevices ⟨start, fun _ => .emitted⟩ := during_sync_start
  have hloads := step_emitted configs hstart hdevice hdrifted rfl
  have hloaded := during_sync_step configs hstart device.externalId
  rw [hloads] at hloaded
  rcases step_loaded configs hloaded hdevice hdrifted (Function.update_self _ _ _) with
    ⟨hstorable, -⟩ | ⟨-, hrejects⟩
  · exact hstorable
  · rw [← hloads] at hrejects
    have hrun : syncAfter configs start zigbeeDevices [device.externalId, device.externalId] =
        _ := hrejects
    rw [hrun] at hstate
    dsimp only at hstate
    rw [Function.update_self] at hstate
    cases hstate

omit [ExternalCalls] in
/-- Two devices are never renamed to the same name. -/
theorem renamed_unique (h : DuringSync start zigbeeDevices handlers) (hdevice : device ∈ start)
    (hdrifted : driftedName zigbeeDevices device = some friendlyName)
    (hstate : handlers.states device.externalId = .completed) (hother : other ∈ start)
    (hsame : driftedName zigbeeDevices other = some friendlyName)
    (hotherState : handlers.states other.externalId = .completed) :
    other.externalId = device.externalId := by
  have hcurrent {initial : Device} (hinitial : initial ∈ start)
      (hname : driftedName zigbeeDevices initial = some friendlyName)
      (hcompleted : handlers.states initial.externalId = .completed) :
      renamedDevice initial friendlyName ∈ handlers.devices := by
    refine (h.stored _).mpr ⟨initial, hinitial, ?_⟩
    unfold currentDevice
    rw [hname, hcompleted]
  by_contra hid
  have hdiffer := Collection.keys_differ_of_other (hcurrent hother hsame hotherState)
    (hcurrent hdevice hdrifted hstate) (external_id_key_eq.mpr rfl)
    fun hkey => hid (external_id_key_eq.mp hkey).symm
  have hnames := (keys_differ_iff.mp hdiffer).2.2
  rw [renamed_friendly_name hsame, renamed_friendly_name hdrifted] at hnames
  rcases hnames with hnone | hne
  · cases hnone
  · exact hne rfl

/-- If the devices hold the reported names after every run, each of the names is free. -/
theorem can_follow_of_all_runs (haddresses : (zigbeeDevices.map (·.ieeeAddress)).Nodup)
    (hnames : ∀ reported ∈ zigbeeDevices, reported.friendlyName ≠ "")
    (hall : ∀ schedule,
      (syncAfter configs start zigbeeDevices schedule).AllDone
          (syncFriendlyNames start zigbeeDevices) →
        HoldReportedNames zigbeeDevices (syncAfter configs start zigbeeDevices schedule).devices)
    (hdevice : device ∈ start) (hdrifted : driftedName zigbeeDevices device = some friendlyName) :
    CanFollow start zigbeeDevices device friendlyName := by
  -- the handler of the device takes both of its steps before the others take one
  have hfirst : DuringSync start zigbeeDevices
      (syncAfter configs start zigbeeDevices [device.externalId, device.externalId]) :=
    during_sync_run configs during_sync_start
  have hrun : syncAfter configs start zigbeeDevices (device.externalId :: device.externalId ::
      inTurn (syncFriendlyNames start zigbeeDevices)) =
        (syncAfter configs start zigbeeDevices [device.externalId, device.externalId]).run configs
          (syncFriendlyNames start zigbeeDevices)
          (inTurn (syncFriendlyNames start zigbeeDevices)) := rfl
  have hafter : DuringSync start zigbeeDevices
      ((syncAfter configs start zigbeeDevices [device.externalId, device.externalId]).run configs
        (syncFriendlyNames start zigbeeDevices)
        (inTurn (syncFriendlyNames start zigbeeDevices))) := during_sync_run configs hfirst
  have hcompleted := (hold_reported_names_iff haddresses hnames hafter).mp
    (hrun ▸ hall _ (hrun ▸ in_turn_all_done configs hfirst fun _ hevent => hevent))
  have hstate := hcompleted device hdevice friendlyName hdrifted
  have hdone : ((syncAfter configs start zigbeeDevices
      [device.externalId, device.externalId]).states device.externalId).IsDone :=
    two_steps_done configs during_sync_start hdevice hdrifted
  rw [run_state_kept configs hdone] at hstate
  have hstorable := storable_of_first_completed configs hdevice hdrifted hstate
  refine ⟨hstorable.valid, fun other hother hid => ⟨?_, fun hsame => hid ?_⟩⟩
  · rcases hstorable.zigbeeFriendlyName other hother hid with hnone | hne
    · rw [renamed_friendly_name hdrifted] at hnone
      cases hnone
    · rw [renamed_friendly_name hdrifted] at hne
      exact hne.symm
  · exact renamed_unique hafter hdevice hdrifted (hcompleted device hdevice friendlyName hdrifted)
      hother hsame (hcompleted other hother friendlyName hsame)

/-- After a device list, all stored devices that are on it hold the names it reports, however the
update requests are handled, exactly when every device that is to be renamed can be saved under its
new name and no other device holds that name or is to get it. -/
theorem reported_names_held_iff (devices : DeviceStore) (zigbeeDevices : List ZigbeeDevice)
    (haddresses : (zigbeeDevices.map (·.ieeeAddress)).Nodup)
    (hnames : ∀ reported ∈ zigbeeDevices, reported.friendlyName ≠ "") :
    (∀ schedule,
        (syncAfter configs devices zigbeeDevices schedule).AllDone
            (syncFriendlyNames devices zigbeeDevices) →
          HoldReportedNames zigbeeDevices
            (syncAfter configs devices zigbeeDevices schedule).devices) ↔
      ∀ device ∈ devices, ∀ friendlyName,
        driftedName zigbeeDevices device = some friendlyName →
          CanFollow devices zigbeeDevices device friendlyName := by
  constructor
  · intro hall device hdevice friendlyName hdrifted
    exact can_follow_of_all_runs configs haddresses hnames hall hdevice hdrifted
  · intro hfollow schedule hdone
    have hduring : DuringSync devices zigbeeDevices
        (syncAfter configs devices zigbeeDevices schedule) :=
      during_sync_run configs during_sync_start
    refine (hold_reported_names_iff haddresses hnames hduring).mpr ?_
    intro device hdevice friendlyName hdrifted
    have hnot : (syncAfter configs devices zigbeeDevices schedule).states device.externalId ≠
        .rejected := run_not_rejected configs during_sync_start hfollow (fun _ => nofun) _
    have hisDone := hdone _ (event_iff.mpr ⟨device, hdevice, friendlyName, hdrifted, rfl⟩)
    dsimp only at hisDone
    cases hstate : (syncAfter configs devices zigbeeDevices schedule).states
        device.externalId with
    | completed => rfl
    | rejected => exact absurd hstate hnot
    | emitted =>
        rw [hstate] at hisDone
        exact hisDone.elim
    | loaded loaded =>
        rw [hstate] at hisDone
        exact hisDone.elim

end

/-! ## Two lamps -/

/-- A Zigbee lamp. -/
def zigbeeLamp (externalId name ieeeAddress friendlyName : String) : Device where
  externalId := externalId
  name := .value name
  type := .value .led
  brand := .value .philips
  transportProtocol := .value .zigbee
  zigbeeIeeeAddress := .value ieeeAddress
  zigbeeFriendlyName := .value friendlyName

/-- A lamp in the hall. -/
def hallLamp : Device :=
  zigbeeLamp "hall" "Hall lamp" "0x00124b0001020304" "hall_lamp"

/-- A lamp on the desk. -/
def deskLamp : Device :=
  zigbeeLamp "desk" "Desk lamp" "0x00124b0005060708" "desk_lamp"

/-- The stored devices: both lamps. -/
def twoLamps : DeviceStore :=
  ⟨[hallLamp, deskLamp], by decide⟩

/-- The bridge reports a new name for one of the lamps. -/
def renamedLamp : List ZigbeeDevice :=
  [{ ieeeAddress := "0x00124b0001020304", friendlyName := "hall_light" },
    { ieeeAddress := "0x00124b0005060708", friendlyName := "desk_lamp" }]

/-- The bridge reports the names of the lamps swapped. -/
def swappedLamps : List ZigbeeDevice :=
  [{ ieeeAddress := "0x00124b0001020304", friendlyName := "desk_lamp" },
    { ieeeAddress := "0x00124b0005060708", friendlyName := "hall_lamp" }]

/-- A name that nobody has is followed. -/
theorem reported_names_held_iff_renamed :
    (renamedLamp.map (·.ieeeAddress)).Nodup ∧
      (∀ reported ∈ renamedLamp, reported.friendlyName ≠ "") ∧
      ∀ schedule, (@syncAfter .unused [] twoLamps renamedLamp schedule).AllDone
          (syncFriendlyNames twoLamps renamedLamp) →
        HoldReportedNames renamedLamp
          (@syncAfter .unused [] twoLamps renamedLamp schedule).devices := by
  have haddresses : (renamedLamp.map (·.ieeeAddress)).Nodup := by decide
  have hnames : ∀ reported ∈ renamedLamp, reported.friendlyName ≠ "" := by decide
  refine ⟨haddresses, hnames, (@reported_names_held_iff [] .unused twoLamps renamedLamp haddresses
    hnames).mpr fun device hdevice friendlyName hdrifted => ?_⟩
  rcases List.mem_cons.mp hdevice with rfl | hrest
  · have hname : driftedName renamedLamp hallLamp = some "hall_light" := by decide +kernel
    rw [hname] at hdrifted
    cases hdrifted
    exact ⟨by decide +kernel, by decide +kernel⟩
  · cases List.mem_singleton.mp hrest
    have hname : driftedName renamedLamp deskLamp = none := by decide +kernel
    rw [hname] at hdrifted
    cases hdrifted

/-- Swapped names are not followed: the first lamp that is handled keeps its name. -/
theorem swapped_names_rejected :
    (swappedLamps.map (·.ieeeAddress)).Nodup ∧ (swappedLamps.map (·.friendlyName)).Nodup ∧
      (∀ reported ∈ swappedLamps, 3 ≤ utf16Length reported.friendlyName ∧
        utf16Length reported.friendlyName ≤ 60) ∧
      (∀ device ∈ twoLamps, invalidPaths device = []) ∧
      ¬ ∀ schedule, (@syncAfter .unused [] twoLamps swappedLamps schedule).AllDone
          (syncFriendlyNames twoLamps swappedLamps) →
        HoldReportedNames swappedLamps
          (@syncAfter .unused [] twoLamps swappedLamps schedule).devices := by
  have haddresses : (swappedLamps.map (·.ieeeAddress)).Nodup := by decide
  refine ⟨haddresses, by decide, by decide +kernel, fun device hdevice => ?_, fun hall => ?_⟩
  · rcases List.mem_cons.mp hdevice with rfl | hrest
    · decide +kernel
    · cases List.mem_singleton.mp hrest
      decide +kernel
  · have hdrifted : driftedName swappedLamps hallLamp = some "desk_lamp" := by decide +kernel
    have hfollows := @can_follow_of_all_runs [] twoLamps swappedLamps hallLamp "desk_lamp" .unused
      haddresses (by decide) hall List.mem_cons_self hdrifted
    exact (hfollows.2 deskLamp (List.mem_cons_of_mem _ List.mem_cons_self) (by decide)).1 rfl

end MyHomeHub.Zigbee
