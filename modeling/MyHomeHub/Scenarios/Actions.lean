import MyHomeHub.Scenarios.Execution
import MyHomeHub.Scenarios.ReportedViolations

/-!
# The actions of a scenario

An action sets controls, measurements or both of a device. The schema and the validator
accept each of these, but `executeScenario` passes only the controls on. And what the
validator accepts is validated once more by the update that an action leads to, there
against the class of the brand as well.

`executed_updates_iff` says for which actions an execution requests what they set, and
`actions_pass_update_iff` which of the accepted controls the update accepts too.
-/

namespace MyHomeHub.ScenariosExecution

open JavaScript Library ConfigsValidator ControlService DeviceSchema DevicesService
  ScenarioSchema ScenariosService ScenariosValidator

/-! ## What an execution requests -/

/-- The request for everything that an action sets. -/
def actionUpdate (action : ScenarioAction) : DeviceUpdateRequestedEvent where
  selector := .externalId action.externalId
  update :=
    { controls := action.set.controls.map some
      measurements := action.set.measurements.map some }

/-- The requests that `execute` emits. -/
def executedUpdates (devicesAt : Nat → DeviceStore) (scenario : Scenario)
    (context : ScenarioExecutionContext) : List DeviceUpdateRequestedEvent :=
  if Executes devicesAt scenario context then requestedUpdates scenario else []

/-- The request of an action with controls sets everything when the action has no measurements. -/
theorem requested_update_iff {action : ScenarioAction} :
    (action.set.controls.map fun controls => ({
        selector := .externalId action.externalId
        update := { controls := some (some controls) } } : DeviceUpdateRequestedEvent)) =
        some (actionUpdate action) ↔
      action.set.controls.isSome ∧ action.set.measurements = none := by
  unfold actionUpdate
  cases action.set.controls with
  | none => exact iff_of_false nofun nofun
  | some controls =>
      cases action.set.measurements with
      | none => exact iff_of_true rfl ⟨rfl, rfl⟩
      | some measurements => exact iff_of_false nofun nofun

/-- An execution requests what the actions of the scenario set, one request for each of them in
their order, exactly when every action sets controls and no measurements. -/
theorem executed_updates_iff {devicesAt : Nat → DeviceStore} {scenario : Scenario}
    {context : ScenarioExecutionContext} (h : Executes devicesAt scenario context) :
    executedUpdates devicesAt scenario context = scenario.actions.map actionUpdate ↔
      ∀ action ∈ scenario.actions,
        action.set.controls.isSome ∧ action.set.measurements = none := by
  rw [executedUpdates, if_pos h, requestedUpdates, List.filterMap_eq_map_iff_forall_eq_some]
  exact forall₂_congr fun action _ => requested_update_iff

/-- A lamp that is on and draws power. -/
def deskLamp : Device where
  externalId := "2c9a7f10-5b3e-4d68-8a41-9e0f6b7c3d52"
  name := .value "Desk lamp"
  type := .value .led
  brand := .value .philips
  transportProtocol := .value .http
  controls := .ofAssignments [⟨"on", .bool true⟩]
  measurements := .ofAssignments [⟨"power", .number (.finite 7)⟩]

/-- The devices with the lamp only. -/
def deskDevices : DeviceStore :=
  ⟨[deskLamp], List.pairwise_singleton _ _⟩

/-- A scenario that does something to the lamp when it is on. -/
def whenLit (set : ScenarioActionSet) : Scenario where
  externalId := "7e5d3c1b-9f8a-4c26-b0d4-1a2b3c4d5e6f"
  name := "Desk"
  trigger := ⟨[{
    type := .device
    device := {
      externalId := some deskLamp.externalId
      controls := some (.ofAssignments [⟨"on", .bool true⟩]) } }], "1"⟩
  actions := [⟨deskLamp.externalId, set⟩]

/-- Switch the lamp off. -/
def switchOff : ScenarioActionSet :=
  { controls := some (.ofAssignments [⟨"on", .bool false⟩]) }

/-- Set the power that the lamp is taken to draw. -/
def resetPower : ScenarioActionSet :=
  { measurements := some (.ofAssignments [⟨"power", .number (.finite 0)⟩]) }

theorem executed_updates_iff_switch_off :
    executedUpdates (fun _ => deskDevices) (whenLit switchOff) {} =
        (whenLit switchOff).actions.map actionUpdate ↔
      ∀ action ∈ (whenLit switchOff).actions,
        action.set.controls.isSome ∧ action.set.measurements = none :=
  executed_updates_iff (by decide +kernel)

/-- A scenario that sets measurements is accepted, and its execution requests nothing. -/
theorem reset_power_requests_nothing :
    @invalidPaths .unused (whenLit resetPower) = [] ∧
      @validateScenario .unused [] deskDevices (some (whenLit resetPower).trigger)
        (some (whenLit resetPower).actions) = .ok () ∧
      Executes (fun _ => deskDevices) (whenLit resetPower) {} ∧
      executedUpdates (fun _ => deskDevices) (whenLit resetPower) {} ≠
        (whenLit resetPower).actions.map actionUpdate := by
  have hexecutes : Executes (fun _ => deskDevices) (whenLit resetPower) {} := by decide +kernel
  refine ⟨by decide +kernel, rfl, hexecutes, ?_⟩
  rw [executedUpdates, if_pos hexecutes]
  show [] ≠ [actionUpdate ⟨deskLamp.externalId, resetPower⟩]
  exact nofun

/-! ## What the update of an action accepts -/

section

variable [ExternalCalls] {configs : List DeviceConfig} {devices : DeviceStore}
  {controls : DevicePayload} {device : Device} {action : ScenarioAction}

/-- What the validator accepts of the actions of a scenario. -/
theorem validated_controls {trigger : Option ScenarioTrigger}
    {actions : Option (List ScenarioAction)}
    (h : validateScenario configs devices trigger actions = .ok ())
    (haction : action ∈ actions.getD []) (hcontrols : action.set.controls = some controls)
    (hdevice : findByExternalId devices action.externalId = some device) :
    collectPayloadErrors configs device.configKey .controls controls = .ok [] := by
  have hvalid := scenario_nil_iff.mp (validate_ok_iff.mp h)
  obtain ⟨found, ⟨id, hid, -, hfound⟩, herrors⟩ := hvalid.actions action haction
  cases hid
  cases hdevice.symm.trans hfound
  exact herrors .controls controls hcontrols

/-! ### The update -/

/-- Whether a config of the device has rules for its controls. -/
def hasControlsConfig (configs : List DeviceConfig) (device : Device) : Bool :=
  ((getConfig configs device.configKey).bind (·.controls)).isSome

/-- The update of an action replaces the stored controls instead of merging into them. -/
def Replaces (configs : List DeviceConfig) (device : Device) (controls : DevicePayload) : Prop :=
  if hasControlsConfig configs device then SetsOverride controls
  else (controls.get devicePayloadOverrideKey).truthy = true

/-- The class of the controls accepts a value under a property. An empty one is not checked. -/
def AcceptsProperty (property : DtoProperty) (value : Value) : Prop :=
  value.isNullish = false → ∀ rule ∈ property.rules, rule.accepts value = true

/-- The class accepts every value that the action sets, and every stored one that it keeps. -/
structure ClassAccepts (configs : List DeviceConfig) (device : Device) (controls : DevicePayload)
    (dto : PayloadDto) : Prop where
  set : ∀ property ∈ dto, property.name ≠ devicePayloadOverrideKey →
    ∀ value, controls.lookup property.name = some value → AcceptsProperty property value
  kept : ¬ Replaces configs device controls →
    ∀ property ∈ dto, property.name = devicePayloadOverrideKey ∨ property.name ∉ controls →
      ∀ value, device.controls.lookup property.name = some value → AcceptsProperty property value

omit [ExternalCalls] in
/-- A class has no errors for a payload when it accepts the value of each property. -/
theorem dto_errors_nil_iff {dto : PayloadDto} {payload : DevicePayload} :
    dto.errors payload = [] ↔
      ∀ property ∈ dto, AcceptsProperty property (payload.get property.name) :=
  PayloadDto.errors_nil_iff

/-- What `validateSection` makes of controls that the validator has accepted. -/
def validatedControls (configs : List DeviceConfig) (device : Device) (controls : DevicePayload) :
    ValidatedSection :=
  if hasControlsConfig configs device then ⟨normalizeOverride controls controls, false⟩
  else ⟨controls, true⟩

theorem validate_section_of_accepted
    (h : collectPayloadErrors configs device.configKey .controls controls = .ok []) :
    validateSection configs device.configKey .controls controls .reject =
      .ok (validatedControls configs device controls) := by
  unfold collectPayloadErrors at h
  unfold validateSection validatedControls hasControlsConfig
  cases hconfig : getConfig configs device.configKey with
  | none => rfl
  | some config =>
      rw [hconfig] at h
      dsimp only at h ⊢
      show _ = Except.ok (if (config.items .controls).isSome then _ else _)
      cases hitems : config.items .controls with
      | none => rfl
      | some items =>
          rw [hitems] at h
          dsimp only at h ⊢
          -- both run the same rules, and reject is the policy that reports their errors
          simp only [validatePayload, buildOptions] at h ⊢
          rw [h]
          rfl

omit [ExternalCalls] in
/-- The validation changes the flag only. -/
theorem lookup_validated_controls {name : String} (hname : name ≠ devicePayloadOverrideKey) :
    (validatedControls configs device controls).payload.lookup name = controls.lookup name := by
  unfold validatedControls
  split
  · rw [lookup_normalize_override, if_neg hname]
  · rfl

omit [ExternalCalls] in
/-- The merge reads the flag as `Replaces` says. -/
theorem truthy_validated_controls :
    ((validatedControls configs device controls).payload.get devicePayloadOverrideKey).truthy =
      true ↔ Replaces configs device controls := by
  unfold Replaces validatedControls
  split
  · rw [Object.get, lookup_normalize_override, if_pos rfl, SetsOverride]
    cases hflag : controls.lookup devicePayloadOverrideKey with
    | none => simp [Value.truthy]
    | some flag => cases flag <;> simp [Value.truthy, Value.strictEq]
  · exact Iff.rfl

/-- The controls after the merge. -/
def mergedControls (configs : List DeviceConfig) (device : Device) (controls : DevicePayload) :
    DevicePayload :=
  (mergePayload (validatedControls configs device controls).payload device.controls).1

omit [ExternalCalls] in
/-- A control that the action sets has the value of the action. -/
theorem merged_set {name : String} {value : Value} (hname : name ≠ devicePayloadOverrideKey)
    (hvalue : controls.lookup name = some value) :
    (mergedControls configs device controls).get name = value := by
  rw [mergedControls, Object.get, lookup_merge_payload, lookup_erase_override, if_neg hname,
    lookup_validated_controls hname, hvalue, Option.some_or]
  rfl

omit [ExternalCalls] in
/-- Every other control has the stored value, or none when the stored controls are replaced. -/
theorem merged_kept {name : String} (hname : name = devicePayloadOverrideKey ∨ name ∉ controls) :
    (Replaces configs device controls →
      (mergedControls configs device controls).get name = .undefined) ∧
    (¬ Replaces configs device controls →
      (mergedControls configs device controls).get name = device.controls.get name) := by
  have hnone : ((validatedControls configs device controls).payload.erase
      devicePayloadOverrideKey).lookup name = none := by
    rw [lookup_erase_override]
    split
    · rfl
    · rename_i hne
      rw [lookup_validated_controls hne]
      exact AList.lookup_eq_none.mpr (hname.resolve_left hne)
  have hget : (mergedControls configs device controls).get name = .ofOption
      (if ((validatedControls configs device controls).payload.get
        devicePayloadOverrideKey).truthy then none else device.controls.lookup name) := by
    show Value.ofOption ((mergePayload _ _).1.lookup name) = _
    rw [lookup_merge_payload, hnone, Option.none_or]
  rw [hget, ← truthy_validated_controls]
  constructor
  · intro hreplaces
    rw [if_pos hreplaces]
    rfl
  · intro hkeeps
    rw [if_neg hkeeps]
    rfl

omit [ExternalCalls] in
/-- The class has no errors for the merged controls when it accepts both what the action sets and
what the merge keeps. -/
theorem class_accepts_iff {dto : PayloadDto} :
    dto.errors (mergedControls configs device controls) = [] ↔
      ClassAccepts configs device controls dto := by
  rw [dto_errors_nil_iff]
  constructor
  · intro hall
    refine ⟨fun property hproperty hname value hvalue => ?_,
      fun hkeeps property hproperty hfree value hvalue => ?_⟩
    · rw [← merged_set hname hvalue]
      exact hall property hproperty
    · have haccepts := hall property hproperty
      rwa [(merged_kept hfree).2 hkeeps, Object.get, hvalue] at haccepts
  · intro haccepts property hproperty
    -- the merge drops the flag, so the flag counts as a control that is not set
    by_cases hfree : property.name = devicePayloadOverrideKey ∨ property.name ∉ controls
    · by_cases hreplaces : Replaces configs device controls
      · rw [(merged_kept hfree).1 hreplaces]
        intro hsome
        cases hsome
      · rw [(merged_kept hfree).2 hreplaces]
        cases hvalue : device.controls.lookup property.name with
        | none =>
            rw [Object.get, hvalue]
            intro hsome
            cases hsome
        | some value =>
            rw [Object.get, hvalue]
            exact haccepts.kept hreplaces property hproperty hfree value hvalue
    · obtain ⟨hname, hmem⟩ := not_or.mp hfree
      obtain ⟨value, hvalue⟩ := Object.mem_iff_lookup.mp (not_not.mp hmem)
      rw [merged_set hname hvalue]
      exact haccepts.set property hproperty hname value hvalue

/-- The update that the controls of an action lead to. -/
def controlsUpdate (controls : DevicePayload) : UpdateDeviceDto :=
  { controls := some (some controls) }

/-- The update of accepted controls comes down to the class of the brand. -/
theorem assign_accepted
    (h : collectPayloadErrors configs device.configKey .controls controls = .ok []) :
    assignPayload configs device .controls id (some (some controls)) (fun _ => device.controls)
        .reject =
      (do
        let dto ← getControlService device
        let merged ← validateDto (mergedControls configs device controls) dto
        return some ⟨merged, if (validatedControls configs device controls).isInput then
          controls.erase devicePayloadOverrideKey else controls⟩) := by
  unfold assignPayload
  cases getControlService device with
  | error error => rfl
  | ok dto =>
      simp only [ok_bind, mergeValidate, validate_section_of_accepted h, id_eq]
      show (validateDto (mergedControls configs device controls) dto >>= _) >>= _ = _
      cases validateDto (mergedControls configs device controls) dto <;> rfl

/-- The update of an action assigns the controls and nothing else. -/
theorem prepare_controls_update :
    (∃ assigned, prepareUpdate configs device (controlsUpdate controls) (some .api) =
        .ok assigned) ↔
      ∃ merged, assignPayload configs device .controls id (some (some controls))
        (fun _ => device.controls) .reject = .ok merged := by
  -- no other field is set, so the key stays and there is nothing to reconcile
  have hfields : assignFields device (controlsUpdate controls).toDeviceFieldsDto = device := rfl
  have hkey : isDeviceConfigKeyChanged device (controlsUpdate controls).toDeviceFieldsDto = false :=
    rfl
  have hpolicy : buildValidationPolicy (some .api) = .reject := rfl
  have hcontrols : (controlsUpdate controls).controls = some (some controls) := rfl
  have hmeasurements : (controlsUpdate controls).measurements = none := rfl
  simp only [prepareUpdate, hfields, hkey, hpolicy, assignPayloads, hcontrols, hmeasurements]
  generalize assignPayload configs device .controls id (some (some controls))
    (fun _ => device.controls) .reject = result
  cases result with
  | error error =>
      simp only [error_bind, reduceCtorEq, exists_false]
  | ok merged =>
      simp only [assignPayload, ok_bind, Bool.false_eq_true, if_false]
      exact iff_of_true ⟨_, rfl⟩ ⟨merged, rfl⟩

/-- The update of accepted controls passes its validation exactly when the class of the brand
accepts them too. -/
theorem update_accepts_iff
    (h : collectPayloadErrors configs device.configKey .controls controls = .ok []) :
    (∃ assigned, prepareUpdate configs device (controlsUpdate controls) (some .api) =
        .ok assigned) ↔
      ∃ dto, getControlService device = .ok dto ∧ ClassAccepts configs device controls dto := by
  rw [prepare_controls_update, assign_accepted h]
  simp only [← class_accepts_iff, validateDto]
  cases getControlService device with
  | error error =>
      refine iff_of_false (fun h => ?_) fun h => ?_
      · obtain ⟨merged, hmerged⟩ := h
        cases hmerged
      · obtain ⟨dto, hdto, -⟩ := h
        cases hdto
  | ok dto =>
      simp only [ok_bind, Except.ok.injEq, exists_eq_left']
      split
      · rename_i hnil
        exact iff_of_true ⟨_, rfl⟩ hnil
      · rename_i errors hsome
        refine iff_of_false (fun h => ?_) hsome
        obtain ⟨merged, hmerged⟩ := h
        cases hmerged

/-- What the validator accepts of a scenario, the updates of its actions accept too, exactly when
each device has a control service whose class accepts the controls of the action. -/
theorem actions_pass_update_iff {trigger : Option ScenarioTrigger}
    {actions : Option (List ScenarioAction)}
    (h : validateScenario configs devices trigger actions = .ok ()) :
    (∀ action ∈ actions.getD [], ∀ controls device, action.set.controls = some controls →
      findByExternalId devices action.externalId = some device →
        ∃ assigned, prepareUpdate configs device (controlsUpdate controls) (some .api) =
          .ok assigned) ↔
    ∀ action ∈ actions.getD [], ∀ controls device, action.set.controls = some controls →
      findByExternalId devices action.externalId = some device →
        ∃ dto, getControlService device = .ok dto ∧ ClassAccepts configs device controls dto := by
  refine forall₂_congr fun action haction => forall₂_congr fun controls device =>
    forall₂_congr fun hcontrols hdevice => ?_
  exact update_accepts_iff (validated_controls h haction hcontrols hdevice)

end

theorem actions_pass_update_iff_switch_off :
    (∀ action ∈ (whenLit switchOff).actions, ∀ controls device,
      action.set.controls = some controls →
        findByExternalId deskDevices action.externalId = some device →
          ∃ assigned, @prepareUpdate .unused [] device (controlsUpdate controls) (some .api) =
            .ok assigned) ↔
    ∀ action ∈ (whenLit switchOff).actions, ∀ controls device,
      action.set.controls = some controls →
        findByExternalId deskDevices action.externalId = some device →
          ∃ dto, @getControlService .unused device = .ok dto ∧
            ClassAccepts [] device controls dto :=
  @actions_pass_update_iff .unused [] deskDevices (some (whenLit switchOff).trigger)
    (some (whenLit switchOff).actions) rfl

/-- Switch the lamp on with a text. -/
def switchOnByText : ScenarioActionSet :=
  { controls := some (.ofAssignments [⟨"on", .string "yes"⟩]) }

/-- The validator accepts controls that the update of the action rejects. -/
theorem switch_on_by_text_rejected :
    @invalidPaths .unused (whenLit switchOnByText) = [] ∧
      @validateScenario .unused [] deskDevices (some (whenLit switchOnByText).trigger)
        (some (whenLit switchOnByText).actions) = .ok () ∧
      findByExternalId deskDevices deskLamp.externalId = some deskLamp ∧
      @prepareUpdate .unused [] deskLamp
          (controlsUpdate (.ofAssignments [⟨"on", .string "yes"⟩])) (some .api) =
        .error (.customValidation
          [⟨"on must be a boolean value", some "on", .string "yes"⟩]) :=
  ⟨by decide +kernel, rfl, rfl, rfl⟩

end MyHomeHub.ScenariosExecution
