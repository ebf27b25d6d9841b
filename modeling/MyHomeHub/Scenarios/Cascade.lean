import MyHomeHub.Library.Cascade
import MyHomeHub.Scenarios.Execution

/-!
# The cascade of a device update

A completed device update executes the scenarios that the device triggers, each of them
requests updates of other devices, and each completed one of these triggers scenarios again.
The two services call each other through an event bus that neither of them looks behind, and
no handler compares what it is asked for with what is stored.

A cascade is the hub together with the tasks that wait for a handler, which are handled in
any order. `cascade_settles` says that no task is left in the end if no device that the
updated one leads to, by way of triggers and actions, leads back to itself.
-/

namespace MyHomeHub.ScenariosExecution

open JavaScript Library DevicesService ScenarioSchema ScenariosService

/-! ## Handlers -/

/-- What waits for a handler. -/
inductive CascadeTask where
  /-- A `DeviceUpdateRequestedEvent`. -/
  | updateRequested (event : DeviceUpdateRequestedEvent)
  /-- A call of `updateDevice`. -/
  | updateDevice (externalId : String) (updateDeviceDto : UpdateDeviceDto)
      (options : UpdateDeviceOptions)
  /-- A `DeviceUpdateCompletedEvent`. -/
  | updateCompleted (externalId : String) (controlsUpdated measurementsUpdated : Bool)
  /-- A `DeviceCommandExecutedEvent`. -/
  | commandExecuted (externalId : String) (commands : DevicePayload)
  /-- The rest of the loop in `triggerDeviceRelatedScenarios`. -/
  | executing (triggeredScenarios : List Scenario) (context : ScenarioExecutionContext)

/-- The hub, what the Zigbee bridge last reported, and the tasks that wait for a handler. -/
structure Cascade where
  hub : ScenarioHub
  pairableDevices : List (String × String) := []
  bridgeConnected : Bool := false
  pending : List CascadeTask

/-- The hub as the devices service sees it. -/
def Cascade.deviceHub (c : Cascade) : Hub where
  devices := c.hub.devices
  configs := c.hub.configs
  pairableDevices := c.pairableDevices
  bridgeConnected := c.bridgeConnected

/-- The event that an effect emits, if it emits one. -/
def CascadeTask.ofEffect : DeviceEffect → Option CascadeTask
  | .deviceUpdateCompleted externalId controlsUpdated measurementsUpdated =>
      some (.updateCompleted externalId controlsUpdated measurementsUpdated)
  | .deviceCommandExecuted externalId commands => some (.commandExecuted externalId commands)
  | .setControls _ _ | .renameDevice _ _ => none

/-- `findDevice` of a selector. -/
def findDevice (devices : DeviceSchema.DeviceStore) : UpdatedDeviceSelector → Option Device
  | .externalId externalId => DeviceSchema.findByExternalId devices externalId
  | .ip ip => devices.docs.find? fun device => device.ip = .value ip
  | .zigbeeFriendlyName name =>
      devices.docs.find? fun device => device.zigbeeFriendlyName = .value name

section

variable [ExternalCalls]

/-- The hub after a task was handled, and the tasks that it leaves. -/
def CascadeTask.handle (c : Cascade) (devicesAt : Nat → DeviceSchema.DeviceStore) :
    CascadeTask → ScenarioHub × List CascadeTask
  | .updateRequested event =>
      match findDevice c.hub.devices event.selector with
      | none => (c.hub, [])
      | some device => (c.hub, [.updateDevice device.externalId event.update
          { propagateControls := event.propagate, origin := some event.origin }])
  | .updateDevice externalId updateDeviceDto options =>
      let outcome := DevicesService.updateDevice c.deviceHub externalId updateDeviceDto options
      ({ c.hub with devices := outcome.devices }, outcome.effects.filterMap CascadeTask.ofEffect)
  | .updateCompleted externalId controlsUpdated measurementsUpdated =>
      (c.hub, if controlsUpdated || measurementsUpdated then
        [.executing (getDeviceTriggeredScenarios c.hub.scenarios externalId) {}] else [])
  | .commandExecuted externalId commands =>
      (c.hub, [.executing (getDeviceTriggeredScenarios c.hub.scenarios externalId)
        { commands := some commands }])
  | .executing [] _ => (c.hub, [])
  | .executing (scenario :: triggeredScenarios) context =>
      if Executes devicesAt scenario context then
        let hub := match repeatTimesPayload scenario with
          | none => c.hub
          | some payload => c.hub.after (updateScenario c.hub scenario.externalId payload)
        (hub, (requestedUpdates scenario).map .updateRequested ++
          [.executing triggeredScenarios context])
      else (c.hub, [.executing triggeredScenarios context])

/-- One of the pending tasks is handled. Each trigger source of a scenario reads the devices at
some time of its own. -/
inductive CascadeStep (c : Cascade) : Cascade → Prop
  | handle {i : Nat} {task : CascadeTask} (devicesAt : Nat → DeviceSchema.DeviceStore)
      (h : c.pending[i]? = some task) :
      CascadeStep c { c with
        hub := (task.handle c devicesAt).1
        pending := c.pending.eraseIdx i ++ (task.handle c devicesAt).2 }

end

/-! ## Which task spawns which -/

/-- A completed update of the first device can lead to an update of the second one, which is
stored. -/
def Triggers (scenarios : ScenarioStore) (stored : Set String) (externalId other : String) : Prop :=
  other ∈ stored ∧ ∃ scenario ∈ getDeviceTriggeredScenarios scenarios externalId,
    ∃ action ∈ scenario.actions, action.set.controls.isSome ∧ action.externalId = other

/-- What the handler of a task can leave, whatever the payloads and the devices are. -/
inductive Spawns (scenarios : ScenarioStore) (stored : Set String) :
    CascadeTask → CascadeTask → Prop
  | update {event : DeviceUpdateRequestedEvent} {externalId : String}
      {updateDeviceDto : UpdateDeviceDto} {options : UpdateDeviceOptions}
      (hstored : externalId ∈ stored)
      (hselector : ∀ id, event.selector = .externalId id → id = externalId) :
      Spawns scenarios stored (.updateRequested event)
        (.updateDevice externalId updateDeviceDto options)
  | complete {externalId : String} {updateDeviceDto : UpdateDeviceDto}
      {options : UpdateDeviceOptions} {controlsUpdated measurementsUpdated : Bool} :
      Spawns scenarios stored (.updateDevice externalId updateDeviceDto options)
        (.updateCompleted externalId controlsUpdated measurementsUpdated)
  | trigger {externalId : String} {controlsUpdated measurementsUpdated : Bool}
      {context : ScenarioExecutionContext} :
      Spawns scenarios stored (.updateCompleted externalId controlsUpdated measurementsUpdated)
        (.executing (getDeviceTriggeredScenarios scenarios externalId) context)
  | command {externalId : String} {commands : DevicePayload}
      {context : ScenarioExecutionContext} :
      Spawns scenarios stored (.commandExecuted externalId commands)
        (.executing (getDeviceTriggeredScenarios scenarios externalId) context)
  | act {scenario : Scenario} {triggeredScenarios : List Scenario}
      {context : ScenarioExecutionContext} {event : DeviceUpdateRequestedEvent}
      (h : event ∈ requestedUpdates scenario) :
      Spawns scenarios stored (.executing (scenario :: triggeredScenarios) context)
        (.updateRequested event)
  | next {scenario : Scenario} {triggeredScenarios : List Scenario}
      {context : ScenarioExecutionContext} :
      Spawns scenarios stored (.executing (scenario :: triggeredScenarios) context)
        (.executing triggeredScenarios context)

variable {scenarios : ScenarioStore} {stored : Set String} {externalId : String}

/-- There is no infinite chain of tasks from a task. -/
def Settles (scenarios : ScenarioStore) (stored : Set String) (task : CascadeTask) : Prop :=
  Acc (fun child parent => Spawns scenarios stored parent child) task

theorem settles_update {updateDeviceDto : UpdateDeviceDto} {options : UpdateDeviceOptions}
    (h : ∀ controlsUpdated measurementsUpdated,
      Settles scenarios stored (.updateCompleted externalId controlsUpdated measurementsUpdated)) :
    Settles scenarios stored (.updateDevice externalId updateDeviceDto options) := by
  refine Acc.intro _ fun child hchild => ?_
  cases hchild with
  | complete => exact h _ _

/-- The loop over triggered scenarios settles when the updates of their actions do. -/
theorem settles_executing {triggeredScenarios : List Scenario}
    {context : ScenarioExecutionContext}
    (h : ∀ scenario ∈ triggeredScenarios, ∀ action ∈ scenario.actions,
      action.set.controls.isSome → action.externalId ∈ stored →
        ∀ controlsUpdated measurementsUpdated, Settles scenarios stored
          (.updateCompleted action.externalId controlsUpdated measurementsUpdated)) :
    Settles scenarios stored (.executing triggeredScenarios context) := by
  induction triggeredScenarios with
  | nil => exact Acc.intro _ fun child hchild => by cases hchild
  | cons scenario rest ih =>
      refine Acc.intro _ fun child hchild => ?_
      cases hchild with
      | next => exact ih fun other hother => h other (List.mem_cons_of_mem _ hother)
      | act hevent =>
          obtain ⟨action, haction, hsome⟩ := List.mem_filterMap.mp hevent
          obtain ⟨controls, hcontrols, rfl⟩ := Option.map_eq_some_iff.mp hsome
          refine Acc.intro _ fun child hchild => ?_
          cases hchild with
          | update hstored hselector =>
              cases hselector action.externalId rfl
              exact settles_update (h scenario List.mem_cons_self action haction
                (Option.isSome_of_eq_some hcontrols) hstored)

/-- A completed update settles when no chain of triggers from the device is infinite. -/
theorem settles_completed {controlsUpdated measurementsUpdated : Bool}
    (h : Acc (fun other externalId => Triggers scenarios stored externalId other) externalId) :
    Settles scenarios stored
      (.updateCompleted externalId controlsUpdated measurementsUpdated) := by
  induction h generalizing controlsUpdated measurementsUpdated with
  | intro externalId _ ih =>
      refine Acc.intro _ fun child hchild => ?_
      cases hchild with
      | trigger =>
          exact settles_executing fun scenario hscenario action haction hcontrols hstored _ _ =>
            ih action.externalId ⟨hstored, scenario, hscenario, action, haction, hcontrols, rfl⟩

/-! ## What handling a task changes -/

/-- The scenarios that a loop goes through count no executions. -/
def CascadeTask.Uncounted : CascadeTask → Prop
  | .executing triggeredScenarios _ =>
      ∀ scenario ∈ triggeredScenarios, repeatTimesPayload scenario = none
  | _ => True

/-- The stored scenarios are these, and no stored device has another id. -/
structure StoredWithin (scenarios : ScenarioStore) (stored : Set String)
    (hub : ScenarioHub) : Prop where
  scenarios : hub.scenarios = scenarios
  devices : ∀ device ∈ hub.devices, device.externalId ∈ stored

theorem find_device_mem {devices : DeviceSchema.DeviceStore} {selector : UpdatedDeviceSelector}
    {device : Device} (h : findDevice devices selector = some device) : device ∈ devices := by
  cases selector <;> exact List.mem_of_find?_eq_some h

theorem find_device_external_id {devices : DeviceSchema.DeviceStore} {id : String}
    {device : Device} (h : findDevice devices (.externalId id) = some device) :
    id = device.externalId :=
  (DeviceSchema.find_by_external_id_iff.mp h).2.symm

theorem mem_of_triggered {scenario : Scenario}
    (h : scenario ∈ getDeviceTriggeredScenarios scenarios externalId) : scenario ∈ scenarios :=
  (List.mem_filter.mp h).1

section

variable [ExternalCalls] {c : Cascade} {task : CascadeTask}
  {devicesAt : Nat → DeviceSchema.DeviceStore}

/-- An update stores no device under another id. -/
theorem update_external_ids {hub : Hub} {updateDeviceDto : UpdateDeviceDto}
    {options : UpdateDeviceOptions} (hstored : ∀ device ∈ hub.devices, device.externalId ∈ stored)
    {other : Device}
    (hother : other ∈ (updateDevice hub externalId updateDeviceDto options).devices) :
    other.externalId ∈ stored := by
  rcases update_device_cases hub externalId updateDeviceDto options with
    ⟨hsame, -⟩ | ⟨device, assigned, hdevice, -, -, hsame | ⟨saved, hsave⟩⟩
  · exact hstored other (hsame ▸ hother)
  · exact hstored other (hsame ▸ hother)
  · obtain ⟨hmem, hid⟩ := DeviceSchema.find_by_external_id_iff.mp hdevice
    have hloaded : DeviceSchema.findByExternalId hub.devices device.externalId = some device :=
      DeviceSchema.find_by_external_id_iff.mpr ⟨hmem, rfl⟩
    obtain ⟨-, -, hafter⟩ := DeviceSchema.save_over_stored hloaded hsave
    rcases (hafter other).mp hother with rfl | ⟨hold, -⟩
    · exact hstored device hmem
    · exact hstored other hold

/-- Handling a task leaves the scenarios, and it leaves no device under another id. -/
theorem stored_within_of_handle (h : StoredWithin scenarios stored c.hub)
    (huncounted : task.Uncounted) :
    StoredWithin scenarios stored (task.handle c devicesAt).1 := by
  cases task with
  | updateRequested event =>
      unfold CascadeTask.handle
      dsimp only
      split <;> exact h
  | updateDevice externalId updateDeviceDto options =>
      exact ⟨h.scenarios, fun device hdevice => update_external_ids h.devices hdevice⟩
  | updateCompleted externalId controlsUpdated measurementsUpdated => exact h
  | commandExecuted externalId commands => exact h
  | executing triggeredScenarios context =>
      cases triggeredScenarios with
      | nil => exact h
      | cons scenario rest =>
          have hnone := huncounted scenario List.mem_cons_self
          simp only [CascadeTask.handle, hnone]
          split <;> exact h

/-- What handling a task leaves is what it can spawn. -/
theorem spawns_of_handle (h : StoredWithin scenarios stored c.hub) {child : CascadeTask}
    (hchild : child ∈ (task.handle c devicesAt).2) : Spawns scenarios stored task child := by
  cases task with
  | updateRequested event =>
      simp only [CascadeTask.handle] at hchild
      split at hchild
      · exact absurd hchild List.not_mem_nil
      · rename_i device hdevice
        cases List.mem_singleton.mp hchild
        refine .update (h.devices device (find_device_mem hdevice)) fun id hselector => ?_
        rw [hselector] at hdevice
        exact find_device_external_id hdevice
  | updateDevice externalId updateDeviceDto options =>
      obtain ⟨effect, heffect, htask⟩ := List.mem_filterMap.mp hchild
      rcases update_device_cases c.deviceHub externalId updateDeviceDto options with
        ⟨-, hnone⟩ | ⟨device, assigned, -, -, heffects, -⟩
      · rw [hnone] at heffect
        exact absurd heffect List.not_mem_nil
      · -- of what an update does, only its completion is an event that somebody handles
        cases heffects effect heffect with
        | setControls => cases htask
        | renameDevice ieeeAddress newFriendlyName => cases htask
        | deviceUpdateCompleted controlsUpdated measurementsUpdated =>
            cases htask
            exact .complete
  | updateCompleted externalId controlsUpdated measurementsUpdated =>
      simp only [CascadeTask.handle, h.scenarios] at hchild
      split at hchild
      · cases List.mem_singleton.mp hchild
        exact .trigger
      · exact absurd hchild List.not_mem_nil
  | commandExecuted externalId commands =>
      simp only [CascadeTask.handle, h.scenarios] at hchild
      cases List.mem_singleton.mp hchild
      exact .command
  | executing triggeredScenarios context =>
      cases triggeredScenarios with
      | nil => exact absurd hchild List.not_mem_nil
      | cons scenario rest =>
          simp only [CascadeTask.handle] at hchild
          split at hchild
          · rcases List.mem_append.mp hchild with hchild | hchild
            · obtain ⟨event, hevent, rfl⟩ := List.mem_map.mp hchild
              exact .act hevent
            · cases List.mem_singleton.mp hchild
              exact .next
          · cases List.mem_singleton.mp hchild
            exact .next

omit [ExternalCalls] in
/-- Loops start with stored scenarios, which count no executions. -/
theorem uncounted_of_spawns {child : CascadeTask}
    (hscenarios : ∀ scenario ∈ scenarios, repeatTimesPayload scenario = none)
    (huncounted : task.Uncounted) (h : Spawns scenarios stored task child) : child.Uncounted := by
  cases h with
  | update hstored hselector => trivial
  | complete => trivial
  | trigger => exact fun scenario hscenario => hscenarios scenario (mem_of_triggered hscenario)
  | command => exact fun scenario hscenario => hscenarios scenario (mem_of_triggered hscenario)
  | act hevent => trivial
  | next => exact fun scenario hscenario => huncounted scenario (List.mem_cons_of_mem _ hscenario)

/-- The stored scenarios and ids stay, and no pending loop goes through a counted scenario. -/
structure Cascade.Within (scenarios : ScenarioStore) (stored : Set String) (c : Cascade) :
    Prop where
  hub : StoredWithin scenarios stored c.hub
  pending : ∀ task ∈ c.pending, task.Uncounted

/-- A step of the cascade takes a task out of the pool and puts tasks in that it spawns. -/
theorem pool_step_of_step {t : Cascade}
    (hscenarios : ∀ scenario ∈ scenarios, repeatTimesPayload scenario = none)
    (h : c.Within scenarios stored) (hstep : CascadeStep c t) :
    t.Within scenarios stored ∧
      PoolStep (Spawns scenarios stored) (c.pending : Multiset CascadeTask) t.pending := by
  cases hstep with
  | @handle i task devicesAt htask =>
      have hmem := List.mem_of_getElem? htask
      have hspawns (child : CascadeTask) (hchild : child ∈ (task.handle c devicesAt).2) :
          Spawns scenarios stored task child := spawns_of_handle h.hub hchild
      refine ⟨⟨stored_within_of_handle h.hub (h.pending task hmem), fun other hother => ?_⟩, ?_⟩
      · rcases List.mem_append.mp hother with hold | hnew
        · exact h.pending other ((List.eraseIdx_sublist c.pending i).subset hold)
        · exact uncounted_of_spawns hscenarios (h.pending task hmem) (hspawns other hnew)
      · obtain ⟨hi, rfl⟩ := List.getElem?_eq_some_iff.mp htask
        refine ⟨c.pending[i], c.pending.eraseIdx i, (c.pending[i].handle c devicesAt).2,
          ?_, rfl, hspawns⟩
        exact (Multiset.coe_eq_coe.mpr (List.getElem_cons_eraseIdx_perm hi)).symm

omit [ExternalCalls] in
/-- The targets of triggers are among the devices that stored scenarios have actions for. -/
theorem target_of_triggers {other : String} (h : Triggers scenarios stored externalId other) :
    other ∈ scenarios.docs.flatMap fun scenario => scenario.actions.map (·.externalId) := by
  obtain ⟨-, scenario, hscenario, action, haction, -, rfl⟩ := h
  exact List.mem_flatMap.mpr ⟨scenario, mem_of_triggered hscenario,
    List.mem_map.mpr ⟨action, haction, rfl⟩⟩

/-- The ids of the stored devices. -/
def storedIds (hub : ScenarioHub) : Set String :=
  {id | ∃ device ∈ hub.devices, device.externalId = id}

/-- A device update leaves nothing pending in the end, in whatever order the tasks are handled, if
no stored scenario counts its executions and no device that the updated one leads to leads
back to itself. -/
theorem cascade_settles {updateDeviceDto : UpdateDeviceDto} {options : UpdateDeviceOptions}
    (hpending : c.pending = [.updateDevice externalId updateDeviceDto options])
    (hscenarios : ∀ scenario ∈ c.hub.scenarios, scenario.repeatTimes.toOption = none)
    (hacyclic : ∀ other,
      Relation.ReflTransGen (Triggers c.hub.scenarios (storedIds c.hub)) externalId other →
        ¬ Relation.TransGen (Triggers c.hub.scenarios (storedIds c.hub)) other other) :
    Inevitable CascadeStep (fun c => c.pending = []) c := by
  have huncounted : ∀ scenario ∈ c.hub.scenarios, repeatTimesPayload scenario = none := by
    intro scenario hscenario
    have hnone := hscenarios scenario hscenario
    unfold repeatTimesPayload
    split
    · rename_i repeatTimes hrepeat
      rw [hrepeat] at hnone
      cases hnone
    · rfl
  have hwithin : c.Within c.hub.scenarios (storedIds c.hub) := by
    refine ⟨⟨rfl, fun device hdevice => ⟨device, hdevice, rfl⟩⟩, fun task htask => ?_⟩
    rw [hpending] at htask
    cases List.mem_singleton.mp htask
    trivial
  have hchains : Acc (fun other externalId =>
      Triggers c.hub.scenarios (storedIds c.hub) externalId other) externalId :=
    acc_of_acyclic (List.finite_toSet _) (fun _ _ h => target_of_triggers h) hacyclic
  refine inevitable_of_tasks Cascade.pending hwithin (fun task htask => ?_)
    (fun c t hcurrent hstep => pool_step_of_step huncounted hcurrent hstep)
    fun c _ hsome => ?_
  · rw [hpending] at htask
    cases List.mem_singleton.mp htask
    exact settles_update fun _ _ => settles_completed hchains
  · obtain ⟨task, rest, hcons⟩ := List.exists_cons_of_ne_nil hsome
    have htask : c.pending[0]? = some task := by rw [hcons]; rfl
    exact ⟨_, .handle (fun _ => c.hub.devices) htask⟩

end

/-! ## A lamp and its scenarios -/

/-- A lamp that is on. -/
def litLamp : Device where
  externalId := "4b7f3a52-6c1e-4d0a-9f35-2e8d7c6b5a41"
  name := .value "Lamp"
  type := .value .led
  brand := .value .philips
  transportProtocol := .value .http
  controls := .ofAssignments [⟨"on", .bool true⟩]

/-- A sensor that has noticed a motion. -/
def hallSensor : Device where
  externalId := "8d1f0c3e-7b52-4e6a-a1d4-3c9e5f7b2a60"
  name := .value "Sensor"
  type := .value .motionSensor
  transportProtocol := .value .zigbee
  measurements := .ofAssignments [⟨"motion", .bool true⟩]

/-- Whenever the sensor notices a motion, switch the lamp on. -/
def hallLight : Scenario where
  externalId := "c3a9e8d7-1f42-4b5c-8e60-7d2b9a4f1c35"
  name := "Hall light"
  trigger := ⟨[{
    type := .device
    device := {
      externalId := some hallSensor.externalId
      measurements := some (.ofAssignments [⟨"motion", .bool true⟩]) } }], "1"⟩
  actions := [⟨litLamp.externalId, { controls := some (.ofAssignments [⟨"on", .bool true⟩]) }⟩]

/-- Whenever the lamp is on, switch it on. -/
def keepOn : Scenario where
  externalId := "9a6c2b1d-3e4f-4a58-b7d0-6f1e8c2a5b93"
  name := "Keep on"
  trigger := ⟨[{
    type := .device
    device := {
      externalId := some litLamp.externalId
      controls := some (.ofAssignments [⟨"on", .bool true⟩]) } }], "1"⟩
  actions := [⟨litLamp.externalId, { controls := some (.ofAssignments [⟨"on", .bool true⟩]) }⟩]

/-- The hub with both devices and one scenario. -/
def hallHub (scenario : Scenario) : ScenarioHub where
  devices := ⟨[hallSensor, litLamp], by decide +kernel⟩
  configs := []
  dayTimePoints _ := (6, 0)
  scenarios := ⟨[scenario], List.pairwise_singleton _ _⟩
  groups := .empty
  jobs := .empty

/-- An update of a device, and nothing else, is pending. -/
def updatePending (scenario : Scenario) (externalId : String) (updateDeviceDto : UpdateDeviceDto) :
    Cascade where
  hub := hallHub scenario
  pending := [.updateDevice externalId updateDeviceDto { origin := some .api }]

/-- The request for a measured motion. -/
def motionNoticed : UpdateDeviceDto :=
  { measurements := some (some (.ofAssignments [⟨"motion", .bool true⟩])) }

theorem hall_light_triggers {other : String}
    (h : Triggers (hallHub hallLight).scenarios stored externalId other) :
    externalId = hallSensor.externalId ∧ other = litLamp.externalId := by
  obtain ⟨-, scenario, hscenario, action, haction, -, rfl⟩ := h
  obtain ⟨hmem, htriggered⟩ := List.mem_filter.mp hscenario
  cases List.mem_singleton.mp hmem
  cases List.mem_singleton.mp haction
  have hsource : hallSensor.externalId = externalId := by simpa [hallLight] using htriggered
  exact ⟨hsource.symm, rfl⟩

/-- The lamp that the sensor leads to leads nowhere. -/
theorem hall_light_settles :
    (hallHub hallLight).scenarios.docs = [hallLight] ∧
      Inevitable (@CascadeStep .unused) (fun c => c.pending = [])
        (updatePending hallLight hallSensor.externalId motionNoticed) := by
  refine ⟨rfl, @cascade_settles hallSensor.externalId .unused _ motionNoticed _ rfl ?_ ?_⟩
  · intro scenario hscenario
    cases List.mem_singleton.mp hscenario
    rfl
  · intro other _ hcycle
    obtain ⟨_, hfirst, -⟩ := Relation.TransGen.head'_iff.mp hcycle
    obtain ⟨_, -, hlast⟩ := Relation.TransGen.tail'_iff.mp hcycle
    have hsensor := (hall_light_triggers hfirst).1
    have hlamp := (hall_light_triggers hlast).2
    exact absurd (hsensor.symm.trans hlamp) (by decide)

/-- The request to switch the lamp on. -/
def switchOn : UpdateDeviceDto :=
  { controls := some (some (.ofAssignments [⟨"on", .bool true⟩])) }

/-- The event by which `keepOn` requests it. -/
def switchOnRequested : DeviceUpdateRequestedEvent :=
  { selector := .externalId litLamp.externalId, update := switchOn }

/-- The pending tasks in one round of `keepOn`. -/
inductive KeepOnPending : List CascadeTask → Prop
  | update : KeepOnPending
      [.updateDevice litLamp.externalId switchOn { origin := some .api }]
  | completed : KeepOnPending [.updateCompleted litLamp.externalId true false]
  | executing : KeepOnPending [.executing [keepOn] {}]
  | acted : KeepOnPending [.updateRequested switchOnRequested, .executing [] {}]
  | requested : KeepOnPending [.updateRequested switchOnRequested]

/-- A task is handled that leaves the hub as it is. -/
theorem step_of_same_hub {c : Cascade} {i : Nat} {task : CascadeTask} {next : List CascadeTask}
    (devicesAt : Nat → DeviceSchema.DeviceStore) (htask : c.pending[i]? = some task)
    (hhub : (@CascadeTask.handle .unused c devicesAt task).1 = c.hub)
    (hnext : c.pending.eraseIdx i ++ (@CascadeTask.handle .unused c devicesAt task).2 = next) :
    @CascadeStep .unused c { c with pending := next } := by
  have hstep := @CascadeStep.handle .unused c i task devicesAt htask
  rw [hhub, hnext] at hstep
  exact hstep

/-- Every task of a round of `keepOn` leads to the next one. -/
theorem keep_on_continues {pending : List CascadeTask} (h : KeepOnPending pending) :
    ∃ next, KeepOnPending next ∧
      @CascadeStep .unused ⟨hallHub keepOn, [], false, pending⟩
        ⟨hallHub keepOn, [], false, next⟩ := by
  let devicesAt (_ : Nat) : DeviceSchema.DeviceStore := (hallHub keepOn).devices
  cases h with
  | update => exact ⟨_, .completed, step_of_same_hub devicesAt (i := 0) rfl rfl rfl⟩
  | completed => exact ⟨_, .executing, step_of_same_hub devicesAt (i := 0) rfl rfl rfl⟩
  | executing => exact ⟨_, .acted, step_of_same_hub devicesAt (i := 0) rfl rfl rfl⟩
  | acted =>
      -- the empty loop is still pending when the update is requested
      have hdone : @CascadeStep .unused
          ⟨hallHub keepOn, [], false, [.updateRequested switchOnRequested, .executing [] {}]⟩
          ⟨hallHub keepOn, [], false, [.updateRequested switchOnRequested]⟩ :=
        step_of_same_hub devicesAt (i := 1) rfl rfl rfl
      exact ⟨_, .requested, hdone⟩
  | requested => exact ⟨_, .update, step_of_same_hub devicesAt (i := 0) rfl rfl rfl⟩

/-- The validation accepts a scenario that is triggered by the device that it updates, and the
cascade of an update of the device need not end. -/
theorem keep_on_never_settles :
    (hallHub keepOn).scenarios.docs = [keepOn] ∧ keepOn.active = true ∧
      keepOn.repeatTimes = .undefined ∧ @invalidPaths .unused keepOn = [] ∧
      @ScenariosValidator.validateScenario .unused [] (hallHub keepOn).devices
        (some keepOn.trigger) (some keepOn.actions) = .ok () ∧
      ¬ Inevitable (@CascadeStep .unused) (fun c => c.pending = [])
        (updatePending keepOn litLamp.externalId switchOn) := by
  refine ⟨rfl, rfl, rfl, by decide +kernel, rfl, ?_⟩
  -- the update stores the controls that the lamp has, so each round leaves the same hub
  let avoids (c : Cascade) : Prop :=
    KeepOnPending c.pending ∧ c = ⟨hallHub keepOn, [], false, c.pending⟩
  have hstart : avoids (updatePending keepOn litLamp.externalId switchOn) := ⟨.update, rfl⟩
  refine not_inevitable_of_avoided hstart ?_ ?_
  · intro c hround hsettled
    have hpending := hround.1
    rw [hsettled] at hpending
    nomatch hpending
  · rintro ⟨hub, pairableDevices, bridgeConnected, pending⟩ ⟨hround, hsame⟩
    obtain ⟨next, hnext, hstep⟩ := keep_on_continues hround
    rw [hsame]
    exact ⟨_, hstep, hnext, rfl⟩

end MyHomeHub.ScenariosExecution
