import MyHomeHub.Devices.Service
import MyHomeHub.Library.ReadModifyWrite

/-!
# Concurrent updates of a device

`updateDevice` reads the device, merges the request into the document in memory, and
saves the document. Between these steps another call can take its own. This module runs
two updates of the controls of one device under every schedule of their steps.

The stored controls are a register, and an update is a read-modify-write call on it: a
save writes the whole merged controls, unless the merge has changed nothing.
-/

namespace MyHomeHub.DevicesService

open JavaScript ConfigsValidator ControlService DeviceSchema Library
open Library.ReadModifyWrite (Phase Race Serial)

/-! ## The calls -/

/-- An update that only has controls. -/
structure ControlsUpdate where
  controls : DevicePayload
  origin : Option DeviceUpdateOrigin

/-- The request of an update. -/
def ControlsUpdate.dto (update : ControlsUpdate) : UpdateDeviceDto :=
  { controls := some (some update.controls) }

/-- Where a call of `updateDevice` is. -/
inductive CallState where
  | started
  | loaded (device : Device)
  | merged (device : Device) (assigned : AssignedDevice)
  | completed
  | rejected

section Calls

variable [ExternalCalls]

/-- The next step of a call: it reads the device, merges the request, or saves the document. -/
def CallState.step (configs : List DeviceConfig) (externalId : String) (update : ControlsUpdate)
    (devices : DeviceStore) : CallState → DeviceStore × CallState
  | .started =>
      match findByExternalId devices externalId with
      | none => (devices, .rejected)
      | some device => (devices, .loaded device)
  | .loaded device =>
      match prepareUpdate configs device update.dto update.origin with
      | .error _ => (devices, .rejected)
      | .ok assigned => (devices, .merged device assigned)
  | .merged device assigned =>
      match save devices device assigned.device with
      | .error _ => (devices, .rejected)
      | .ok (devices, _) => (devices, .completed)
  | .completed => (devices, .completed)
  | .rejected => (devices, .rejected)

/-- The stored devices and the states of the two calls. -/
structure Updates where
  devices : DeviceStore
  calls : Caller → CallState

/-- One of the calls takes its next step. -/
def Updates.step (configs : List DeviceConfig) (externalId : String)
    (requests : Caller → ControlsUpdate) (updates : Updates) (caller : Caller) : Updates :=
  let (devices, call) :=
    (updates.calls caller).step configs externalId (requests caller) updates.devices
  ⟨devices, Function.update updates.calls caller call⟩

/-- The calls take turns as a schedule says. -/
def Updates.run (configs : List DeviceConfig) (externalId : String)
    (requests : Caller → ControlsUpdate) (updates : Updates) (schedule : List Caller) : Updates :=
  schedule.foldl (Updates.step configs externalId requests) updates

/-- Two calls that have not taken a step. -/
def Updates.start (devices : DeviceStore) : Updates :=
  ⟨devices, fun _ => .started⟩

/-- Three steps of a call in a row store what `updateDevice` stores. -/
theorem three_steps_eq_update_device (hub : Hub) (externalId : String) (update : ControlsUpdate)
    (propagateControls : Bool) :
    let step := fun state : DeviceStore × CallState =>
      state.2.step hub.configs externalId update state.1
    (step (step (step (hub.devices, .started)))).1 =
      (updateDevice hub externalId update.dto ⟨propagateControls, update.origin⟩).devices := by
  simp only [CallState.step, updateDevice]
  cases hdevice : findByExternalId hub.devices externalId with
  | none => rfl
  | some device =>
      dsimp only
      cases hprepare : prepareUpdate hub.configs device update.dto update.origin with
      | error error => rfl
      | ok assigned =>
          dsimp only
          cases save hub.devices device assigned.device with
          | error error => rfl
          | ok result => rfl

/-! ## The stored controls as a register -/

/-- The entries of a payload. -/
abbrev Fields := String → Option Value

/-- The entries after a merge: the new ones over the old ones. -/
def overlay (payload : DevicePayload) (fields : Fields) : Fields :=
  fun name => (payload.lookup name).or (fields name)

/-- A merge that leaves the entries as they are. -/
def ChangesNothing (payload : DevicePayload) (fields : Fields) : Prop :=
  overlay payload fields = fields

open Classical in
/-- The register after a save: a merge that has changed nothing is not written. -/
noncomputable def writeFields (requests : Caller → ControlsUpdate) (caller : Caller)
    (loaded stored : Fields) : Fields :=
  writtenField loaded (overlay (requests caller).controls loaded) stored

/-- A request without the flag, whose entries the config of the device all accepts. -/
def Accepted (configs : List DeviceConfig) (key : DeviceKey) (update : ControlsUpdate) : Prop :=
  update.controls.lookup devicePayloadOverrideKey = none ∧
    ∃ validated, validateSection configs key .controls update.controls
        (buildValidationPolicy update.origin) = .ok validated ∧
      Object.SameFields validated.payload update.controls

/-- The state of a call and its phase as a caller of the register. -/
inductive CallMatches (externalId : String) (key : DeviceKey) (update : ControlsUpdate) :
    CallState → Phase Fields → Prop where
  | started : CallMatches externalId key update .started .started
  | loaded (device) :
      device.externalId = externalId → device.configKey = key →
      CallMatches externalId key update (.loaded device)
        (.loaded fun name => device.controls.lookup name)
  | merged (device assigned) :
      device.externalId = externalId → device.configKey = key →
      assigned.device.configKey = key →
      (∀ name, assigned.device.controls.lookup name =
        overlay update.controls (fun name => device.controls.lookup name) name) →
      CallMatches externalId key update (.merged device assigned)
        (.merged fun name => device.controls.lookup name)
  | completed : CallMatches externalId key update .completed .saved

/-- The register holds the stored controls, and the calls are in their phases. -/
structure Simulates (externalId : String) (key : DeviceKey)
    (requests : Caller → ControlsUpdate) (updates : Updates) (race : Race Fields) : Prop where
  stored : ∃ device, findByExternalId updates.devices externalId = some device ∧
    device.configKey = key ∧ race.register = fun name => device.controls.lookup name
  calls : ∀ caller, CallMatches externalId key (requests caller) (updates.calls caller)
    (race.phases caller)

section Simulation

variable {configs : List DeviceConfig} {externalId : String} {key : DeviceKey}
  {requests : Caller → ControlsUpdate} {updates : Updates} {race : Race Fields}
  {caller : Caller} {schedule : List Caller} {device : Device}

/-- The document that an accepted request prepares: only its controls are merged. -/
theorem prepared_controls {update : ControlsUpdate} {assigned : AssignedDevice}
    (haccepted : Accepted configs device.configKey update)
    (h : prepareUpdate configs device update.dto update.origin = .ok assigned) :
    assigned.device.configKey = device.configKey ∧
      ∀ name, assigned.device.controls.lookup name =
        overlay update.controls (fun name => device.controls.lookup name) name := by
  obtain ⟨hflag, validated, hvalidated, hsame⟩ := haccepted
  obtain ⟨base, hbase, rfl⟩ := prepare_update_ok h
  obtain ⟨controls, measurements, hcontrols, -, rfl⟩ := assign_payloads_ok hbase
  refine ⟨rfl, fun name => ?_⟩
  rcases assign_payload_ok hcontrols with
    ⟨hnone, -⟩ | ⟨payload, controlsDto, merged, hpayload, -, hmerge, rfl⟩
  · cases hnone
  · cases hpayload
    obtain ⟨other, hother, -, hmerged, -⟩ := merge_validate_ok hmerge
    cases hother.symm.trans hvalidated
    have hunset : validated.payload.lookup devicePayloadOverrideKey = none :=
      (hsame _).trans hflag
    show merged.merged.lookup name = _
    rw [hmerged, lookup_merge_payload, lookup_erase_override, Object.get, hunset, overlay,
      hsame name]
    by_cases hname : name = devicePayloadOverrideKey
    · rw [if_pos hname, hname, hflag]
      rfl
    · rw [if_neg hname]
      rfl

omit [ExternalCalls] in
/-- A save under an unchanged config key leaves the key of the stored document. -/
theorem write_modified_key {loaded saved stored : Device}
    (h : saved.configKey = loaded.configKey) :
    (writeModified loaded saved stored).configKey = stored.configKey := by
  obtain ⟨hbrand, htype, hprotocol⟩ := DeviceKey.mk.inj h
  simp only [Device.configKey, writeModified, writtenField, hbrand, htype, hprotocol, if_true]

omit [ExternalCalls] in
/-- A save of merged controls writes the register. -/
theorem write_modified_controls {loaded saved stored : Device}
    (h : ∀ name, saved.controls.lookup name =
      overlay (requests caller).controls (fun name => loaded.controls.lookup name) name) :
    (fun name => (writeModified loaded saved stored).controls.lookup name) =
      writeFields requests caller (fun name => loaded.controls.lookup name)
        (fun name => stored.controls.lookup name) := by
  have hsame : Object.sameFields saved.controls loaded.controls = true ↔
      ChangesNothing (requests caller).controls (fun name => loaded.controls.lookup name) := by
    rw [Object.same_fields_iff, ChangesNothing, funext_iff]
    exact forall_congr' fun name => by rw [h name]
  show (fun name => (writtenPayload loaded.controls saved.controls stored.controls).lookup name) = _
  unfold writtenPayload writeFields writtenField
  by_cases hchanges : overlay (requests caller).controls (fun name => loaded.controls.lookup name) =
      fun name => loaded.controls.lookup name
  · rw [if_pos hchanges, if_pos (hsame.mpr hchanges)]
  · rw [if_neg hchanges, if_neg (fun h => hchanges (hsame.mp h))]
    exact funext h

omit [ExternalCalls] in
theorem calls_match_update {calls : Caller → CallState} {phases : Caller → Phase Fields}
    {call : CallState} {phase : Phase Fields}
    (hcalls : ∀ turn, CallMatches externalId key (requests turn) (calls turn) (phases turn))
    (hcall : CallMatches externalId key (requests caller) call phase) (turn : Caller) :
    CallMatches externalId key (requests turn) (Function.update calls caller call turn)
      (Function.update phases caller phase turn) := by
  by_cases hturn : turn = caller
  · subst hturn
    rw [Function.update_self, Function.update_self]
    exact hcall
  · rw [Function.update_of_ne hturn, Function.update_of_ne hturn]
    exact hcalls turn

/-- A step that does not reject is a step of the caller of the register. -/
theorem simulates_step (haccepted : ∀ caller, Accepted configs key (requests caller))
    (hsim : Simulates externalId key requests updates race)
    (hnext : (updates.step configs externalId requests caller).calls caller ≠ .rejected) :
    Simulates externalId key requests (updates.step configs externalId requests caller)
      (ReadModifyWrite.step (writeFields requests) race caller) := by
  obtain ⟨⟨stored, hstored, hkey, hregister⟩, hcalls⟩ := hsim
  have hcall := hcalls caller
  unfold Updates.step at hnext ⊢
  unfold ReadModifyWrite.step
  generalize hstate : updates.calls caller = state at hcall hnext ⊢
  generalize hphase : race.phases caller = phase at hcall ⊢
  cases hcall with
  | started =>
      simp only [CallState.step, hstored]
      refine ⟨⟨stored, hstored, hkey, hregister⟩, calls_match_update hcalls ?_⟩
      rw [hregister]
      exact .loaded stored (find_by_external_id_iff.mp hstored).2 hkey
  | loaded device hid hdeviceKey =>
      simp only [CallState.step] at hnext ⊢
      cases hprepare : prepareUpdate configs device (requests caller).dto
          (requests caller).origin with
      | error error => simp [hprepare] at hnext
      | ok assigned =>
          obtain ⟨hassignedKey, hcontrols⟩ :=
            prepared_controls (hdeviceKey ▸ haccepted caller) hprepare
          exact ⟨⟨stored, hstored, hkey, hregister⟩, calls_match_update hcalls
            (.merged device assigned hid hdeviceKey (hassignedKey.trans hdeviceKey) hcontrols)⟩
  | merged device assigned hid hdeviceKey hassignedKey hcontrols =>
      simp only [CallState.step] at hnext ⊢
      cases hsave : save updates.devices device assigned.device with
      | error error => simp [hsave] at hnext
      | ok result =>
          obtain ⟨devices, saved⟩ := result
          obtain ⟨rfl, -, hmem⟩ := save_over_stored (hid.symm ▸ hstored) hsave
          refine ⟨⟨_, find_by_external_id_iff.mpr ⟨(hmem _).mpr (.inl rfl), ?_⟩, ?_, ?_⟩,
            calls_match_update hcalls .completed⟩
          · exact (find_by_external_id_iff.mp hstored).2
          · rw [write_modified_key ((drop_config_key _ _).trans
              (hassignedKey.trans hdeviceKey.symm)), hkey]
          · rw [hregister]
            exact (write_modified_controls hcontrols).symm
  | completed =>
      refine ⟨⟨stored, hstored, hkey, hregister⟩, ?_⟩
      have hsame (turn : Caller) : CallMatches externalId key (requests turn)
          (Function.update updates.calls caller .completed turn)
          (Function.update race.phases caller .saved turn) :=
        calls_match_update hcalls .completed turn
      rwa [← hphase, Function.update_eq_self] at hsame

/-- A rejected call stays rejected. -/
theorem run_rejected (h : updates.calls caller = .rejected) :
    (updates.run configs externalId requests schedule).calls caller = .rejected := by
  induction schedule generalizing updates with
  | nil => exact h
  | cons turn schedule ih =>
      refine ih ?_
      by_cases hturn : turn = caller
      · subst hturn
        simp [Updates.step, h, CallState.step]
      · simp only [Updates.step, Function.update_of_ne (Ne.symm hturn), h]

/-- A run in which no call rejects is a run of the callers of the register. -/
theorem simulates_run (haccepted : ∀ caller, Accepted configs key (requests caller))
    (hsim : Simulates externalId key requests updates race)
    (hdone : ∀ caller,
      (updates.run configs externalId requests schedule).calls caller ≠ .rejected) :
    Simulates externalId key requests (updates.run configs externalId requests schedule)
      (ReadModifyWrite.run (writeFields requests) race schedule) := by
  induction schedule generalizing updates race with
  | nil => exact hsim
  | cons turn schedule ih =>
      refine ih (simulates_step haccepted hsim fun hrejected => ?_) hdone
      have hstays : ((updates.step configs externalId requests turn).run configs externalId
          requests schedule).calls turn = .rejected := run_rejected hrejected
      exact hdone turn hstays

/-! ## What two updates leave -/

omit [ExternalCalls] in
/-- The order of two merges that name different entries does not matter. -/
theorem overlay_comm {p q : DevicePayload} (hdisjoint : ∀ name ∈ p, name ∉ q) (fields : Fields) :
    overlay p (overlay q fields) = overlay q (overlay p fields) := by
  funext name
  unfold overlay
  by_cases hp : name ∈ p
  · rw [AList.lookup_eq_none.mpr (hdisjoint name hp), Option.none_or, Option.none_or]
  · rw [AList.lookup_eq_none.mpr hp, Option.none_or, Option.none_or]

omit [ExternalCalls] in
/-- A merge after another one changes nothing exactly when it would have changed nothing before. -/
theorem changes_nothing_overlay_iff {p q : DevicePayload} (hdisjoint : ∀ name ∈ p, name ∉ q)
    (fields : Fields) : ChangesNothing p (overlay q fields) ↔ ChangesNothing p fields := by
  constructor
  · intro h
    funext name
    by_cases hp : name ∈ p
    · have hname := congrFun h name
      unfold overlay at hname ⊢
      rwa [AList.lookup_eq_none.mpr (hdisjoint name hp), Option.none_or] at hname
    · rw [overlay, AList.lookup_eq_none.mpr hp, Option.none_or]
  · intro h
    show overlay p (overlay q fields) = overlay q fields
    rw [overlay_comm hdisjoint, show overlay p fields = fields from h]

omit [ExternalCalls] in
theorem disjoint_other
    (hdisjoint : ∀ name ∈ (requests .first).controls, name ∉ (requests .second).controls)
    (caller : Caller) :
    ∀ name ∈ (requests caller).controls, name ∉ (requests caller.other).controls := by
  cases caller with
  | first => exact hdisjoint
  | second => exact fun name hsecond hfirst => hdisjoint name hfirst hsecond

omit [ExternalCalls] in
/-- Both merges over the initial entries, whichever comes first. -/
theorem overlay_both
    (hdisjoint : ∀ name ∈ (requests .first).controls, name ∉ (requests .second).controls)
    (caller : Caller) (fields : Fields) :
    overlay (requests caller.other).controls (overlay (requests caller).controls fields) =
      overlay (requests .first).controls (overlay (requests .second).controls fields) := by
  cases caller with
  | first => exact (overlay_comm hdisjoint fields).symm
  | second => rfl

omit [ExternalCalls] in
open Classical in
/-- A call that writes over what it has read leaves its merge. -/
theorem write_fields_same (fields : Fields) :
    writeFields requests caller fields fields = overlay (requests caller).controls fields :=
  written_field_same _ _

omit [ExternalCalls] in
/-- Of two overlapping merges both are kept exactly when one of them changes nothing. -/
theorem overlap_kept_iff
    (hdisjoint : ∀ name ∈ (requests .first).controls, name ∉ (requests .second).controls)
    (caller : Caller) (fields : Fields) :
    writeFields requests caller.other fields (writeFields requests caller fields fields) =
        overlay (requests .first).controls (overlay (requests .second).controls fields) ↔
      ∃ caller, ChangesNothing (requests caller).controls fields := by
  rw [write_fields_same, ← overlay_both hdisjoint caller fields, writeFields]
  unfold writtenField
  by_cases hother : overlay (requests caller.other).controls fields = fields
  · rw [if_pos hother]
    refine iff_of_true ?_ ⟨caller.other, hother⟩
    have hdisjointOther := disjoint_other hdisjoint caller.other
    rw [Caller.other_other] at hdisjointOther
    exact ((changes_nothing_overlay_iff hdisjointOther fields).mpr hother).symm
  · rw [if_neg hother, ← overlay_comm (disjoint_other hdisjoint caller)]
    have hcaller := changes_nothing_overlay_iff (disjoint_other hdisjoint caller) fields
    constructor
    · intro h
      exact ⟨caller, hcaller.mp h.symm⟩
    · intro h
      obtain ⟨turn, hturn⟩ := h
      rcases caller.eq_or_other turn with rfl | rfl
      · exact (hcaller.mpr hturn).symm
      · exact absurd hturn hother

/-- Two accepted updates of disjoint controls are both kept, and so are the other controls, exactly
when one call takes all its steps before the other one begins, or one of the updates changes
nothing. -/
theorem both_updates_kept_iff {devices : DeviceStore}
    (hdevice : findByExternalId devices externalId = some device)
    (haccepted : ∀ caller, Accepted configs device.configKey (requests caller))
    (hdisjoint : ∀ name ∈ (requests .first).controls, name ∉ (requests .second).controls)
    (hcompleted : ∀ caller, ((Updates.start devices).run configs externalId requests
      schedule).calls caller = .completed) :
    (∀ stored, findByExternalId ((Updates.start devices).run configs externalId requests
        schedule).devices externalId = some stored → ∀ name, stored.controls.lookup name =
          ((requests .first).controls.lookup name).or
            (((requests .second).controls.lookup name).or (device.controls.lookup name))) ↔
      (Serial schedule ∨ ∃ caller, ChangesNothing (requests caller).controls
        (fun name => device.controls.lookup name)) := by
  have hstart : Simulates externalId device.configKey requests (Updates.start devices)
      (ReadModifyWrite.start fun name => device.controls.lookup name) :=
    ⟨⟨device, hdevice, rfl, rfl⟩, fun _ => .started⟩
  have hsim := simulates_run haccepted hstart fun caller hrejected => by
    cases (hcompleted caller).symm.trans hrejected
  obtain ⟨⟨stored, hstored, -, hregister⟩, hcalls⟩ := hsim
  have hdone : ReadModifyWrite.Done (ReadModifyWrite.run (writeFields requests)
      (ReadModifyWrite.start fun name => device.controls.lookup name) schedule) := by
    intro caller
    have hcall := hcalls caller
    rw [hcompleted caller] at hcall
    generalize (ReadModifyWrite.run _ _ schedule).phases caller = phase at hcall ⊢
    cases hcall
    rfl
  have hkept : (∀ other, findByExternalId ((Updates.start devices).run configs externalId requests
      schedule).devices externalId = some other → ∀ name, other.controls.lookup name =
        ((requests .first).controls.lookup name).or
          (((requests .second).controls.lookup name).or (device.controls.lookup name))) ↔
      (ReadModifyWrite.run (writeFields requests)
        (ReadModifyWrite.start fun name => device.controls.lookup name) schedule).register =
        overlay (requests .first).controls (overlay (requests .second).controls
          fun name => device.controls.lookup name) := by
    rw [hregister, hstored, funext_iff]
    simp only [Option.some.injEq, forall_eq']
    rfl
  rw [hkept]
  rcases ReadModifyWrite.register_after hdone with
    ⟨hserial, caller, hafter⟩ | ⟨hoverlap, caller, hafter⟩
  · refine iff_of_true ?_ (.inl hserial)
    rw [hafter, write_fields_same, write_fields_same, overlay_both hdisjoint]
  · rw [hafter, or_iff_right hoverlap]
    exact overlap_kept_iff hdisjoint caller _

end Simulation

end Calls

/-! ## A lamp that is switched on and dimmed -/

/-- A lamp that is off. -/
def darkLamp : Device where
  externalId := "lamp"
  name := .value "Lamp"
  type := .value .led
  brand := .value .philips
  transportProtocol := .value .http
  controls := .ofAssignments [⟨"on", .bool false⟩, ⟨"brightness", .number (.finite 100)⟩]

/-- The stored devices: the lamp. -/
def lampDevices : DeviceStore :=
  ⟨[darkLamp], List.pairwise_singleton _ _⟩

/-- One update switches the lamp on, the other one dims it. -/
def lampRequests : Caller → ControlsUpdate
  | .first => ⟨.ofAssignments [⟨"on", .bool true⟩], none⟩
  | .second => ⟨.ofAssignments [⟨"brightness", .number (.finite 50)⟩], none⟩

/-- The lamp after both updates. -/
def lampAfter (schedule : List Caller) : Updates :=
  @Updates.run .unused [] "lamp" lampRequests (.start lampDevices) schedule

/-- The first update is done before the second one reads. -/
def inTurn : List Caller :=
  [.first, .first, .first, .second, .second, .second]

/-- Both updates read before one of them saves. -/
def alternating : List Caller :=
  [.first, .second, .first, .second, .first, .second]

theorem lamp_requests_accepted (caller : Caller) :
    @Accepted .unused [] darkLamp.configKey (lampRequests caller) := by
  cases caller <;> exact ⟨rfl, _, rfl, fun _ => rfl⟩

theorem lamp_requests_disjoint :
    ∀ name ∈ (lampRequests .first).controls, name ∉ (lampRequests .second).controls := by
  intro name hname
  obtain ⟨value, hvalue⟩ := Object.mem_of_assignments.mp hname
  cases List.mem_singleton.mp hvalue
  decide +kernel

/-- One after the other, both updates are kept. -/
theorem both_updates_kept_iff_in_turn :
    Serial inTurn ∧
    ∀ stored, findByExternalId (lampAfter inTurn).devices "lamp" = some stored →
      ∀ name, stored.controls.lookup name =
        ((lampRequests .first).controls.lookup name).or
          (((lampRequests .second).controls.lookup name).or
            (darkLamp.controls.lookup name)) :=
  ⟨⟨.first, rfl⟩, (@both_updates_kept_iff .unused [] "lamp" lampRequests inTurn darkLamp lampDevices
    rfl lamp_requests_accepted lamp_requests_disjoint (fun caller => by cases caller <;> rfl)).mpr
    (.inl ⟨.first, rfl⟩)⟩

/-- Step by step in turns, both updates are accepted and the lamp stays off. -/
theorem alternating_updates_lose_one :
    findByExternalId lampDevices "lamp" = some darkLamp ∧
    (∀ caller, @Accepted .unused [] darkLamp.configKey (lampRequests caller)) ∧
    (∀ name ∈ (lampRequests .first).controls, name ∉ (lampRequests .second).controls) ∧
    (∀ caller, (lampAfter alternating).calls caller = .completed) ∧
    ¬ ∀ stored, findByExternalId (lampAfter alternating).devices "lamp" = some stored →
      ∀ name, stored.controls.lookup name =
        ((lampRequests .first).controls.lookup name).or
          (((lampRequests .second).controls.lookup name).or
            (darkLamp.controls.lookup name)) := by
  refine ⟨rfl, lamp_requests_accepted, lamp_requests_disjoint,
    fun caller => by cases caller <;> rfl, fun hall => ?_⟩
  have hon := hall _ rfl "on"
  revert hon
  decide +kernel

end MyHomeHub.DevicesService
