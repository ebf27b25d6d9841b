import MyHomeHub.DeviceConfigs.Sanitizing
import MyHomeHub.Library.Collecting
import MyHomeHub.Scenarios.Validator

/-!
# The violations that the scenarios validator reports

`validateScenario` accepts a scenario without violations and throws all violations of another
one, those of the trigger sources before those of the actions, under the paths of the request.
Read `validates_iff` first: it does so exactly when no condition and no action reaches a rule
that throws.
-/

namespace MyHomeHub.ScenariosValidator

open JavaScript Library ConfigsValidator DeviceSchema

/-! ## The devices of a scenario -/

/-- `scenario.trigger?.sources ?? []` -/
def sourcesOf (trigger : Option ScenarioTrigger) : List ScenarioTriggerSource :=
  (trigger.map (·.sources)).getD []

/-- The ids in a scenario, each of them once. -/
def referencedIds (trigger : Option ScenarioTrigger) (actions : Option (List ScenarioAction)) :
    List String :=
  (((((sourcesOf trigger).filter fun source => source.type = .device).map
      (·.device.externalId)) ++ (actions.getD []).map fun action => some action.externalId)
    |>.reduceOption |>.filter (· ≠ "")).eraseDups

/-- `resolveDevices`: the devices that are found, by their ids. -/
def resolveDevices (devices : DeviceStore) (trigger : Option ScenarioTrigger)
    (actions : Option (List ScenarioAction)) : Object Device :=
  .ofAssignments (((referencedIds trigger actions).filterMap (findByExternalId devices)).map
    fun device => ⟨device.externalId, device⟩)

/-- An id refers to a device that is stored. -/
def RefersTo (devices : DeviceStore) (externalId : Option String) (device : Device) : Prop :=
  ∃ id, externalId = some id ∧ id ≠ "" ∧ findByExternalId devices id = some device

section Devices

variable {devices : DeviceStore} {trigger : Option ScenarioTrigger}
  {actions : Option (List ScenarioAction)} {externalId : Option String} {device : Device}

theorem resolve_device_some_iff :
    resolveDevice devices externalId = some device ↔ RefersTo devices externalId device := by
  unfold RefersTo
  cases externalId with
  | none => simp [resolveDevice]
  | some id =>
      by_cases hid : id = ""
      · simp [resolveDevice, hid]
      · simp [resolveDevice, hid]

theorem find_by_external_id_id {id : String} (h : findByExternalId devices id = some device) :
    device.externalId = id :=
  of_decide_eq_true (List.find?_some (p := fun device : Device => device.externalId = id) h)

theorem mem_referenced_ids {id : String} :
    id ∈ referencedIds trigger actions ↔ id ≠ "" ∧
      ((∃ source ∈ sourcesOf trigger, source.type = .device ∧
          source.device.externalId = some id) ∨
        ∃ action ∈ actions.getD [], action.externalId = id) := by
  unfold referencedIds
  rw [List.mem_eraseDups, List.mem_filter, List.reduceOption_mem_iff, List.mem_append,
    List.mem_map, List.mem_map, decide_eq_true_eq, and_comm]
  refine and_congr_right fun _ => or_congr (exists_congr fun source => ?_)
    (exists_congr fun action => and_congr_right fun _ => Option.some_inj)
  rw [List.mem_filter, decide_eq_true_eq, and_assoc]

/-- The map has the stored device of every id in the scenario, and no other. -/
theorem lookup_resolve_devices {id : String} :
    (resolveDevices devices trigger actions).lookup id = some device ↔
      id ∈ referencedIds trigger actions ∧ findByExternalId devices id = some device := by
  have hentry : ∀ device, ⟨id, device⟩ ∈ ((referencedIds trigger actions).filterMap
      (findByExternalId devices)).map (fun device => (⟨device.externalId, device⟩ :
        Σ _ : String, Device)) ↔
          id ∈ referencedIds trigger actions ∧ findByExternalId devices id = some device := by
    intro device
    rw [List.mem_map]
    refine ⟨?_, fun ⟨hid, h⟩ => ⟨device, List.mem_filterMap.mpr ⟨id, hid, h⟩, ?_⟩⟩
    · rintro ⟨found, hfound, hsame⟩
      cases hsame
      obtain ⟨other, hother, h⟩ := List.mem_filterMap.mp hfound
      rw [find_by_external_id_id h]
      exact ⟨hother, h⟩
    · rw [find_by_external_id_id h]
  rw [resolveDevices, Object.lookup_of_assignments, hentry]
  intro a b ha hb
  exact Option.some.inj (((hentry a).mp ha).2.symm.trans ((hentry b).mp hb).2)

/-- Reading the map at an id of the scenario resolves the id. -/
theorem get_resolved (externalId : Option String) (hid : ∀ id, externalId = some id → id ≠ "" →
    id ∈ referencedIds trigger actions) :
    externalId.bind (resolveDevices devices trigger actions).lookup =
      resolveDevice devices externalId := by
  ext device
  rw [resolve_device_some_iff, Option.bind_eq_some_iff, RefersTo]
  refine exists_congr fun id => and_congr_right fun hsome => ?_
  rw [lookup_resolve_devices]
  exact ⟨fun ⟨hmem, h⟩ => ⟨(mem_referenced_ids.mp hmem).1, h⟩,
    fun ⟨hne, h⟩ => ⟨hid id hsome hne, h⟩⟩

/-- The device of a trigger source is resolved. -/
theorem source_resolved {source : ScenarioTriggerSource} (hsource : source ∈ sourcesOf trigger)
    (htype : source.type = .device) :
    source.device.externalId.bind (resolveDevices devices trigger actions).lookup =
      resolveDevice devices source.device.externalId :=
  get_resolved _ fun _ hid hne =>
    mem_referenced_ids.mpr ⟨hne, .inl ⟨source, hsource, htype, hid⟩⟩

/-- The device of an action is resolved. -/
theorem action_resolved {action : ScenarioAction} (haction : action ∈ actions.getD []) :
    (resolveDevices devices trigger actions).lookup action.externalId =
      resolveDevice devices (some action.externalId) :=
  get_resolved (some action.externalId) fun _ hid hne =>
    mem_referenced_ids.mpr ⟨hne, .inr ⟨action, haction, Option.some.inj hid⟩⟩

end Devices

section Validation

variable [ExternalCalls]

/-! ## What is reported -/

/-- The payloads of an action. -/
def payloadsOf (set : ScenarioActionSet) : DeviceConfigSection → Option DevicePayload
  | .commands => none
  | .controls => set.controls
  | .measurements => set.measurements

/-- A violation of the payload of a section stands for an item of the payload: it is reported as it
is, at the item in the place that the payload has in the request. -/
structure ReportedAt (payloadSection : DeviceConfigSection) (payload : DevicePayload)
    (place : String) (error reported : ValidationError) : Prop where
  message : reported.message = error.message
  value : reported.value = error.value
  item : ∃ item, error.path = some s!"{payloadSection.text}.{item}" ∧
    error.value = payload.get item ∧ reported.path = some s!"{place}.{item}"

/-- The report of a section, if there is a payload: the violations that `collect` finds, in
order. -/
def SectionReport
    (collect : DeviceConfigSection → DevicePayload → Except HubError (List ValidationError))
    (payloads : DeviceConfigSection → Option DevicePayload)
    (place : DeviceConfigSection → String) (_ : Nat) (payloadSection : DeviceConfigSection)
    (reports : List ValidationError) : Prop :=
  match payloads payloadSection with
  | none => reports = []
  | some payload => ∃ errors, collect payloadSection payload = .ok errors ∧
      List.Forall₂ (ReportedAt payloadSection payload (place payloadSection)) errors reports

/-- The report of a trigger source. -/
inductive SourceReport (configs : List DeviceConfig) (devices : DeviceStore) (index : Nat)
    (source : ScenarioTriggerSource) : List ValidationError → Prop
  | cron (htype : source.type ≠ .device) : SourceReport configs devices index source []
  | unknownDevice (htype : source.type = .device)
      (hunknown : ∀ device, ¬ RefersTo devices source.device.externalId device) :
      SourceReport configs devices index source
        [buildUnknownDeviceError source.device.externalId
          s!"trigger.sources.{index}.device.externalId"]
  | conditions {device : Device} {reports : List ValidationError} (htype : source.type = .device)
      (hdevice : RefersTo devices source.device.externalId device)
      (hreports : Reports (SectionReport (collectConditionErrors configs device.configKey)
        (conditionsOf source.device)
        fun payloadSection => s!"trigger.sources.{index}.device.{payloadSection.text}.are") 0
          [.commands, .controls, .measurements] reports) :
      SourceReport configs devices index source reports

/-- The report of an action. -/
inductive ActionReport (configs : List DeviceConfig) (devices : DeviceStore) (index : Nat)
    (action : ScenarioAction) : List ValidationError → Prop
  | unknownDevice
      (hunknown : ∀ device, ¬ RefersTo devices (some action.externalId) device) :
      ActionReport configs devices index action
        [buildUnknownDeviceError (some action.externalId) s!"actions.{index}.externalId"]
  | payloads {device : Device} {reports : List ValidationError}
      (hdevice : RefersTo devices (some action.externalId) device)
      (hreports : Reports (SectionReport (collectPayloadErrors configs device.configKey)
        (payloadsOf action.set)
        fun payloadSection => s!"actions.{index}.set.{payloadSection.text}") 0
          [.controls, .measurements] reports) :
      ActionReport configs devices index action reports

/-- The reports of a scenario: of the sources and then of the actions, each by index. -/
def ScenarioReport (configs : List DeviceConfig) (devices : DeviceStore)
    (trigger : Option ScenarioTrigger) (actions : Option (List ScenarioAction))
    (reports : List ValidationError) : Prop :=
  ∃ sourceReports actionReports,
    Reports (SourceReport configs devices) 0 (sourcesOf trigger) sourceReports ∧
      Reports (ActionReport configs devices) 0 (actions.getD []) actionReports ∧
        reports = sourceReports ++ actionReports

/-- A trigger source refers to a device, and its conditions have no violations. -/
def ValidSource (configs : List DeviceConfig) (devices : DeviceStore)
    (source : ScenarioTriggerSource) : Prop :=
  source.type = .device → ∃ device, RefersTo devices source.device.externalId device ∧
    ∀ payloadSection conditions, conditionsOf source.device payloadSection = some conditions →
      collectConditionErrors configs device.configKey payloadSection conditions = .ok []

/-- An action refers to a device, and its payloads have no violations. -/
def ValidAction (configs : List DeviceConfig) (devices : DeviceStore)
    (action : ScenarioAction) : Prop :=
  ∃ device, RefersTo devices (some action.externalId) device ∧
    ∀ payloadSection payload, payloadsOf action.set payloadSection = some payload →
      collectPayloadErrors configs device.configKey payloadSection payload = .ok []

/-- All references of a scenario are good, and it has no violations. -/
structure ValidScenario (configs : List DeviceConfig) (devices : DeviceStore)
    (trigger : Option ScenarioTrigger) (actions : Option (List ScenarioAction)) : Prop where
  sources : ∀ source ∈ sourcesOf trigger, ValidSource configs devices source
  actions : ∀ action ∈ actions.getD [], ValidAction configs devices action

/-- The validator accepts valid scenarios only, and throws what is to be reported of another. -/
structure Validates (configs : List DeviceConfig) (devices : DeviceStore)
    (trigger : Option ScenarioTrigger) (actions : Option (List ScenarioAction)) : Prop where
  resolves : validateScenario configs devices trigger actions = .ok () ↔
    ValidScenario configs devices trigger actions
  throws : ¬ ValidScenario configs devices trigger actions →
    ∃ reports, ScenarioReport configs devices trigger actions reports ∧
      validateScenario configs devices trigger actions = .error (.customValidation reports)

/-! ## When it is met -/

/-- No entry of a payload meets a rule that throws, in the config of a device. -/
def CanBeChecked (configs : List DeviceConfig) (device : Device)
    (payloadSection : DeviceConfigSection) (payload : DevicePayload) : Prop :=
  ∀ config, getConfig configs device.configKey = some config →
    ∀ name value, payload.lookup name = some value →
      ¬ MeetsBrokenRuleOf ((config.items payloadSection).getD []) name value

/-- The conditions and the payloads for known devices can be checked. -/
structure CheckableScenario (configs : List DeviceConfig) (devices : DeviceStore)
    (trigger : Option ScenarioTrigger) (actions : Option (List ScenarioAction)) : Prop where
  sources : ∀ source ∈ sourcesOf trigger, source.type = .device →
    ∀ device, RefersTo devices source.device.externalId device →
      ∀ payloadSection conditions, conditionsOf source.device payloadSection = some conditions →
        CanBeChecked configs device payloadSection conditions
  actions : ∀ action ∈ actions.getD [],
    ∀ device, RefersTo devices (some action.externalId) device →
      ∀ payloadSection payload, payloadsOf action.set payloadSection = some payload →
        CanBeChecked configs device payloadSection payload

section Proofs

variable {configs : List DeviceConfig} {devices : DeviceStore} {key : DeviceKey}
  {device : Device} {options : PayloadValidationOptions} {payload : DevicePayload}
  {payloadSection : DeviceConfigSection} {place : String} {error : ValidationError}
  {errors reports : List ValidationError} {index : Nat}

/-! ## One section -/

/-- A violation is of an item of the payload. -/
def NamesItem (payloadSection : DeviceConfigSection) (payload : DevicePayload)
    (error : ValidationError) : Prop :=
  ∃ item, error.path = some s!"{payloadSection.text}.{item}" ∧ error.value = payload.get item

theorem field_error_names {entries : List (Σ _ : String, Value)}
    (h : fieldErrors options entries = .ok errors) (herror : error ∈ errors) :
    ∃ entry ∈ entries, error.path = some s!"{options.payloadSection.text}.{entry.1}" ∧
      error.value = entry.2 := by
  induction entries generalizing errors with
  | nil =>
      cases h
      cases herror
  | cons entry entries ih =>
      obtain ⟨name, value⟩ := entry
      have hlater : ∀ found, fieldErrors options entries = .ok found → error ∈ found →
          ∃ entry ∈ ⟨name, value⟩ :: entries,
            error.path = some s!"{options.payloadSection.text}.{entry.1}" ∧
              error.value = entry.2 := by
        intro found hfound hmem
        obtain ⟨entry, hentry, hnames⟩ := ih hfound hmem
        exact ⟨entry, List.mem_cons_of_mem _ hentry, hnames⟩
      by_cases hname : name = devicePayloadOverrideKey
      · rw [fieldErrors, if_pos hname] at h
        exact hlater errors h herror
      · obtain ⟨message, found, -, hfound, rfl⟩ := (field_errors_cons_iff hname).mp h
        rcases List.mem_append.mp herror with herror | herror
        · obtain ⟨text, -, rfl⟩ := Option.map_eq_some_iff.mp (Option.mem_toList.mp herror)
          exact ⟨⟨name, value⟩, List.mem_cons_self, rfl, rfl⟩
        · exact hlater found hfound herror

theorem collect_errors_names (h : collectErrors payload options = .ok errors) :
    ∀ error ∈ errors, NamesItem options.payloadSection payload error := by
  obtain ⟨found, hfound, h⟩ := bind_ok_iff.mp h
  have hentries : ∀ error ∈ found, NamesItem options.payloadSection payload error := by
    intro error herror
    obtain ⟨entry, hentry, hpath, hvalue⟩ := field_error_names hfound herror
    refine ⟨entry.1, hpath, hvalue.trans ?_⟩
    rw [Object.get, AList.mem_lookup_iff.mpr hentry]
    rfl
  intro error herror
  split at h
  · cases h
    rcases List.mem_append.mp herror with herror | herror
    · exact hentries error herror
    · obtain ⟨item, -, rfl⟩ := List.mem_map.mp herror
      exact ⟨item.name.toString, rfl, rfl⟩
  · cases h
    exact hentries error herror

theorem collect_condition_names
    (h : collectConditionErrors configs key payloadSection payload = .ok errors) :
    ∀ error ∈ errors, NamesItem payloadSection payload error := by
  unfold collectConditionErrors at h
  split at h
  · cases h
    exact fun error herror => by cases herror
  · exact collect_errors_names h

theorem collect_payload_names
    (h : collectPayloadErrors configs key payloadSection payload = .ok errors) :
    ∀ error ∈ errors, NamesItem payloadSection payload error := by
  unfold collectPayloadErrors at h
  split at h
  · cases h
    exact fun error herror => by cases herror
  · split at h
    · cases h
      exact fun error herror => by cases herror
    · exact collect_errors_names h

omit [ExternalCalls] in
/-- The path of an item is rebased. -/
theorem rebase_paths_cons {item : String}
    (hpath : error.path = some s!"{payloadSection.text}.{item}") :
    rebasePaths (error :: errors) payloadSection place =
      { error with path := some s!"{place}.{item}" } ::
        rebasePaths errors payloadSection place := by
  have htext : (s!"{payloadSection.text}.{item}").toList =
      (payloadSection.text ++ ".").toList ++ item.toList :=
    String.toList_append
  unfold rebasePaths
  dsimp only
  rw [List.map_cons, hpath, Option.getD_some, htext,
    if_pos (List.isPrefixOf_iff_prefix.mpr (List.prefix_append _ _)), List.drop_left,
    String.ofList_toList]
  rfl

omit [ExternalCalls] in
/-- The rebased violations are the reported ones. -/
theorem rebase_paths_iff
    (hnames : ∀ error ∈ errors, NamesItem payloadSection payload error) :
    rebasePaths errors payloadSection place = reports ↔
      List.Forall₂ (ReportedAt payloadSection payload place) errors reports := by
  induction errors generalizing reports with
  | nil => exact (eq_comm.trans List.forall₂_nil_left_iff.symm)
  | cons error errors ih =>
      obtain ⟨⟨item, hpath, hvalue⟩, hrest⟩ := List.forall_mem_cons.mp hnames
      refine ⟨?_, fun h => ?_⟩
      · rintro rfl
        rw [rebase_paths_cons hpath]
        exact .cons ⟨rfl, rfl, item, hpath, hvalue, rfl⟩ ((ih hrest).mp rfl)
      · obtain ⟨reported, others, hreported, hothers, rfl⟩ := List.forall₂_cons_left_iff.mp h
        obtain ⟨item, hpath, -, hplace⟩ := hreported.item
        rw [rebase_paths_cons hpath, (ih hrest).mpr hothers]
        obtain ⟨message, path, value⟩ := reported
        cases hreported.message
        cases hreported.value
        cases hplace
        rfl

variable {collect : DeviceConfigSection → DevicePayload → Except HubError (List ValidationError)}
  {payloads : DeviceConfigSection → Option DevicePayload} {places : DeviceConfigSection → String}

/-- The errors of a section, if there is a payload, at its place. -/
def checkSection
    (collect : DeviceConfigSection → DevicePayload → Except HubError (List ValidationError))
    (payloads : DeviceConfigSection → Option DevicePayload)
    (places : DeviceConfigSection → String) (_ : Nat) (payloadSection : DeviceConfigSection) :
    Except HubError (List ValidationError) :=
  match payloads payloadSection with
  | none => .ok []
  | some payload => do
      let errors ← collect payloadSection payload
      return rebasePaths errors payloadSection (places payloadSection)

omit [ExternalCalls] in
theorem check_section_ok_iff
    (hnames : ∀ payload errors, collect payloadSection payload = .ok errors →
      ∀ error ∈ errors, NamesItem payloadSection payload error) :
    checkSection collect payloads places index payloadSection = .ok reports ↔
      SectionReport collect payloads places index payloadSection reports := by
  unfold checkSection SectionReport
  cases payloads payloadSection with
  | none => exact ⟨fun h => (Except.ok.inj h).symm, fun h => h ▸ rfl⟩
  | some payload =>
      refine bind_ok_iff.trans (exists_congr fun errors => and_congr_right fun herrors => ?_)
      rw [← rebase_paths_iff (hnames payload errors herrors)]
      exact ⟨Except.ok.inj, fun h => h ▸ rfl⟩

omit [ExternalCalls] in
theorem section_report_nil_iff :
    SectionReport collect payloads places index payloadSection [] ↔
      ∀ payload, payloads payloadSection = some payload → collect payloadSection payload =
        .ok [] := by
  unfold SectionReport
  cases payloads payloadSection with
  | none => simp
  | some payload =>
      refine ⟨?_, fun h => ⟨[], h payload rfl, .nil⟩⟩
      rintro ⟨errors, herrors, hreports⟩ _ ⟨⟩
      rw [herrors, List.forall₂_nil_right_iff.mp hreports]

omit [ExternalCalls] in
/-- A section has a report exactly if its payload can be checked. -/
theorem exists_section_report_iff
    (hnames : ∀ payload errors, collect payloadSection payload = .ok errors →
      ∀ error ∈ errors, NamesItem payloadSection payload error) :
    (∃ reports, SectionReport collect payloads places index payloadSection reports) ↔
      ∀ payload, payloads payloadSection = some payload →
        ∃ errors, collect payloadSection payload = .ok errors := by
  unfold SectionReport
  cases payloads payloadSection with
  | none => simp
  | some payload =>
      refine ⟨?_, fun h => ?_⟩
      · rintro ⟨reports, errors, herrors, -⟩ _ ⟨⟩
        exact ⟨errors, herrors⟩
      · obtain ⟨errors, herrors⟩ := h payload rfl
        exact ⟨_, errors, herrors, (rebase_paths_iff (hnames payload errors herrors)).mp rfl⟩

theorem collect_condition_returns_iff :
    (∃ errors, collectConditionErrors configs device.configKey payloadSection payload =
        .ok errors) ↔ CanBeChecked configs device payloadSection payload := by
  unfold collectConditionErrors CanBeChecked
  cases getConfig configs device.configKey with
  | none => simp
  | some config =>
      simp only [Option.some.injEq, forall_eq']
      exact collect_errors_returns_iff

theorem collect_payload_returns_iff :
    (∃ errors, collectPayloadErrors configs device.configKey payloadSection payload =
        .ok errors) ↔ CanBeChecked configs device payloadSection payload := by
  unfold collectPayloadErrors CanBeChecked
  cases getConfig configs device.configKey with
  | none => simp
  | some config =>
      simp only [Option.some.injEq, forall_eq']
      cases hitems : config.items payloadSection with
      | none =>
          -- a section that is not declared has no items
          refine iff_of_true ⟨[], rfl⟩ ?_
          rintro name value - ⟨-, item, hitem, -⟩
          cases hitem
      | some items =>
          have hoptions : getItems (buildOptions config payloadSection .reject) = items := by
            show (config.items payloadSection).getD [] = items
            rw [hitems, Option.getD_some]
          rw [Option.getD_some, ← hoptions]
          exact collect_errors_returns_iff

/-! ## Sources and actions -/

/-- The body of the loop of `validateTriggerSources`. -/
def checkSource (configs : List DeviceConfig) (devices : DeviceStore) (index : Nat)
    (source : ScenarioTriggerSource) : Except HubError (List ValidationError) :=
  match source.type with
  | .cron => .ok []
  | .device =>
      match resolveDevice devices source.device.externalId with
      | none =>
          .ok [buildUnknownDeviceError source.device.externalId
            s!"trigger.sources.{index}.device.externalId"]
      | some device =>
          collectFrom (checkSection (collectConditionErrors configs device.configKey)
            (conditionsOf source.device)
            fun payloadSection => s!"trigger.sources.{index}.device.{payloadSection.text}.are") 0
              [.commands, .controls, .measurements]

/-- The body of the loop of `validateActions`. -/
def checkAction (configs : List DeviceConfig) (devices : DeviceStore) (index : Nat)
    (action : ScenarioAction) : Except HubError (List ValidationError) :=
  match resolveDevice devices (some action.externalId) with
  | none =>
      .ok [buildUnknownDeviceError (some action.externalId) s!"actions.{index}.externalId"]
  | some device =>
      collectFrom (checkSection (collectPayloadErrors configs device.configKey)
        (payloadsOf action.set) fun payloadSection => s!"actions.{index}.set.{payloadSection.text}")
          0 [.controls, .measurements]

theorem validate_conditions_eq (index : Nat) {source : ScenarioTriggerDevice} {path : String}
    {sections : List DeviceConfigSection} :
    validateConditions configs source device path sections =
      collectFrom (checkSection (collectConditionErrors configs device.configKey)
        (conditionsOf source) fun payloadSection => s!"{path}.{payloadSection.text}.are") index
          sections := by
  induction sections generalizing index with
  | nil => rfl
  | cons payloadSection sections ih =>
      rw [validateConditions, collectFrom, ih (index + 1), checkSection]
      cases conditionsOf source payloadSection with
      | none => rfl
      | some conditions =>
          dsimp only
          cases collectConditionErrors configs device.configKey payloadSection conditions <;> rfl

section Places

variable {path : String} (hpath : path = s!"trigger.sources.{index}.device")

include hpath

omit [ExternalCalls] in
/-- The place of a source, where an unknown device is reported. -/
theorem unknown_source_place :
    s!"{path}.externalId" = s!"trigger.sources.{index}.device.externalId" := by
  rw [hpath]
  show "trigger.sources." ++ toString index ++ ".device" ++ ".externalId" = _
  rw [String.append_assoc]
  rfl

omit [ExternalCalls] in
/-- The places of the conditions of a source. -/
theorem conditions_places :
    (fun payloadSection : DeviceConfigSection => s!"{path}.{payloadSection.text}.are") =
      fun payloadSection => s!"trigger.sources.{index}.device.{payloadSection.text}.are" := by
  have hplace : path ++ "." = "trigger.sources." ++ toString index ++ ".device." := by
    rw [hpath]
    show "trigger.sources." ++ toString index ++ ".device" ++ "." = _
    rw [String.append_assoc]
    rfl
  funext payloadSection
  exact congrArg (· ++ payloadSection.text ++ ".are") hplace

end Places

theorem validate_trigger_sources_eq {sources : List ScenarioTriggerSource} :
    validateTriggerSources configs devices index sources =
      collectFrom (checkSource configs devices) index sources := by
  induction sources generalizing index with
  | nil => rfl
  | cons source sources ih =>
      rw [validateTriggerSources, collectFrom, ih, checkSource]
      cases source.type with
      | cron => rfl
      | device =>
          dsimp only
          cases resolveDevice devices source.device.externalId with
          | none =>
              dsimp only
              rw [unknown_source_place rfl]
          | some device =>
              dsimp only
              rw [validate_conditions_eq 0, conditions_places rfl]

theorem validate_action_eq {action : ScenarioAction} :
    validateAction configs devices s!"actions.{index}" action =
      checkAction configs devices index action := by
  unfold validateAction checkAction
  cases resolveDevice devices (some action.externalId) with
  | none => rfl
  | some device =>
      have hsection : ∀ payloadSection, validateActionSection configs device
          s!"actions.{index}" payloadSection (payloadsOf action.set payloadSection) =
            checkSection (collectPayloadErrors configs device.configKey) (payloadsOf action.set)
              (fun payloadSection => s!"actions.{index}.set.{payloadSection.text}") 0
              payloadSection := by
        intro payloadSection
        unfold validateActionSection checkSection
        cases payloadsOf action.set payloadSection <;> rfl
      dsimp only
      rw [collect_from_pair, ← hsection]
      exact congrArg (_ >>= ·) (funext fun controls => congrArg (· >>= _) (hsection .measurements))

theorem validate_actions_eq {actions : List ScenarioAction} :
    validateActions configs devices index actions =
      collectFrom (checkAction configs devices) index actions := by
  induction actions generalizing index with
  | nil => rfl
  | cons action actions ih => rw [validateActions, collectFrom, ih, validate_action_eq]

variable {source : ScenarioTriggerSource} {action : ScenarioAction}

omit [ExternalCalls] in
theorem resolve_device_none_iff {externalId : Option String} :
    resolveDevice devices externalId = none ↔
      ∀ device, ¬ RefersTo devices externalId device := by
  rw [Option.eq_none_iff_forall_ne_some]
  exact forall_congr' fun device => not_congr resolve_device_some_iff

omit [ExternalCalls] in
/-- An id refers to one device. -/
theorem RefersTo.unique {externalId : Option String} {other : Device}
    (h : RefersTo devices externalId device) (hother : RefersTo devices externalId other) :
    device = other :=
  Option.some.inj ((resolve_device_some_iff.mpr h).symm.trans (resolve_device_some_iff.mpr hother))

theorem source_report_iff :
    checkSource configs devices index source = .ok reports ↔
      SourceReport configs devices index source reports := by
  have hconditions : ∀ device : Device, collectFrom
      (checkSection (collectConditionErrors configs device.configKey) (conditionsOf source.device)
        fun payloadSection => s!"trigger.sources.{index}.device.{payloadSection.text}.are") 0
          [.commands, .controls, .measurements] = .ok reports ↔ _ :=
    fun device => collect_from_ok_iff fun _ _ _ _ =>
      check_section_ok_iff fun _ _ => collect_condition_names
  unfold checkSource
  refine ⟨fun h => ?_, fun h => ?_⟩
  · cases htype : source.type with
    | cron =>
        rw [htype] at h
        cases h
        exact .cron (by rw [htype]; decide)
    | device =>
        rw [htype] at h
        dsimp only at h
        cases hresolve : resolveDevice devices source.device.externalId with
        | none =>
            rw [hresolve] at h
            cases h
            exact .unknownDevice htype (resolve_device_none_iff.mp hresolve)
        | some device =>
            rw [hresolve] at h
            exact .conditions htype (resolve_device_some_iff.mp hresolve)
              ((hconditions device).mp h)
  · cases h with
    | cron htype =>
        cases hcron : source.type with
        | cron => rfl
        | device => exact absurd hcron htype
    | unknownDevice htype hunknown =>
        rw [htype, resolve_device_none_iff.mpr hunknown]
    | conditions htype hdevice hreports =>
        rw [htype, resolve_device_some_iff.mpr hdevice]
        exact (hconditions _).mpr hreports

theorem action_report_iff :
    checkAction configs devices index action = .ok reports ↔
      ActionReport configs devices index action reports := by
  have hpayloads : ∀ device : Device, collectFrom
      (checkSection (collectPayloadErrors configs device.configKey) (payloadsOf action.set)
        fun payloadSection => s!"actions.{index}.set.{payloadSection.text}") 0
          [.controls, .measurements] = .ok reports ↔ _ :=
    fun device => collect_from_ok_iff fun _ _ _ _ =>
      check_section_ok_iff fun _ _ => collect_payload_names
  unfold checkAction
  refine ⟨fun h => ?_, fun h => ?_⟩
  · cases hresolve : resolveDevice devices (some action.externalId) with
    | none =>
        rw [hresolve] at h
        cases h
        exact .unknownDevice (resolve_device_none_iff.mp hresolve)
    | some device =>
        rw [hresolve] at h
        exact .payloads (resolve_device_some_iff.mp hresolve) ((hpayloads device).mp h)
  · cases h with
    | unknownDevice hunknown => rw [resolve_device_none_iff.mpr hunknown]
    | payloads hdevice hreports =>
        rw [resolve_device_some_iff.mpr hdevice]
        exact (hpayloads _).mpr hreports

variable {sections : List DeviceConfigSection} {trigger : Option ScenarioTrigger}
  {actions : Option (List ScenarioAction)}

omit [ExternalCalls] in
/-- The sections of a list that has all sections with a payload. -/
theorem forall_sections_iff {p : DeviceConfigSection → DevicePayload → Prop}
    (hsections : ∀ payloadSection payload, payloads payloadSection = some payload →
      payloadSection ∈ sections) :
    (∀ payloadSection ∈ sections, ∀ payload, payloads payloadSection = some payload →
      p payloadSection payload) ↔
      ∀ payloadSection payload, payloads payloadSection = some payload →
        p payloadSection payload :=
  ⟨fun h payloadSection payload hpayload =>
    h payloadSection (hsections payloadSection payload hpayload) payload hpayload,
    fun h payloadSection _ => h payloadSection⟩

omit [ExternalCalls] in
theorem sections_nil_iff
    (hsections : ∀ payloadSection payload, payloads payloadSection = some payload →
      payloadSection ∈ sections) :
    Reports (SectionReport collect payloads places) index sections [] ↔
      ∀ payloadSection payload, payloads payloadSection = some payload →
        collect payloadSection payload = .ok [] :=
  (reports_nil_iff fun _ _ => section_report_nil_iff).trans (forall_sections_iff hsections)

omit [ExternalCalls] in
theorem exists_sections_report_iff
    (hsections : ∀ payloadSection payload, payloads payloadSection = some payload →
      payloadSection ∈ sections)
    (hnames : ∀ payloadSection payload errors, collect payloadSection payload = .ok errors →
      ∀ error ∈ errors, NamesItem payloadSection payload error) :
    (∃ reports, Reports (SectionReport collect payloads places) index sections reports) ↔
      ∀ payloadSection payload, payloads payloadSection = some payload →
        ∃ errors, collect payloadSection payload = .ok errors := by
  refine Iff.trans (exists_reports_iff fun i payloadSection => ?_) (forall_sections_iff hsections)
  exact exists_section_report_iff (hnames payloadSection)

omit [ExternalCalls] in
theorem mem_condition_sections {device : ScenarioTriggerDevice} :
    ∀ payloadSection payload, conditionsOf device payloadSection = some payload →
      payloadSection ∈ [DeviceConfigSection.commands, .controls, .measurements] := by
  intro payloadSection payload _
  cases payloadSection <;> decide

omit [ExternalCalls] in
theorem mem_payload_sections {set : ScenarioActionSet} :
    ∀ payloadSection payload, payloadsOf set payloadSection = some payload →
      payloadSection ∈ [DeviceConfigSection.controls, .measurements] := by
  intro payloadSection payload hpayload
  cases payloadSection with
  | commands => cases hpayload
  | controls => decide
  | measurements => decide

theorem source_nil_iff :
    SourceReport configs devices index source [] ↔ ValidSource configs devices source := by
  refine ⟨fun h htype => ?_, fun h => ?_⟩
  · cases h with
    | cron hcron => exact absurd htype hcron
    | conditions _ hdevice hreports =>
        exact ⟨_, hdevice, (sections_nil_iff mem_condition_sections).mp hreports⟩
  · by_cases htype : source.type = .device
    · obtain ⟨device, hdevice, hconditions⟩ := h htype
      exact .conditions htype hdevice ((sections_nil_iff mem_condition_sections).mpr hconditions)
    · exact .cron htype

theorem action_nil_iff :
    ActionReport configs devices index action [] ↔ ValidAction configs devices action := by
  refine ⟨fun h => ?_, fun h => ?_⟩
  · cases h with
    | payloads hdevice hreports =>
        exact ⟨_, hdevice, (sections_nil_iff mem_payload_sections).mp hreports⟩
  · obtain ⟨device, hdevice, hpayloads⟩ := h
    exact .payloads hdevice ((sections_nil_iff mem_payload_sections).mpr hpayloads)

theorem exists_source_report_iff :
    (∃ reports, SourceReport configs devices index source reports) ↔
      (source.type = .device → ∀ device, RefersTo devices source.device.externalId device →
        ∀ payloadSection conditions, conditionsOf source.device payloadSection = some conditions →
          CanBeChecked configs device payloadSection conditions) := by
  simp only [← collect_condition_returns_iff]
  have hsections : ∀ device : Device,
      (∃ reports, Reports (SectionReport (collectConditionErrors configs device.configKey)
        (conditionsOf source.device)
        fun payloadSection => s!"trigger.sources.{index}.device.{payloadSection.text}.are") 0
          [.commands, .controls, .measurements] reports) ↔ _ :=
    fun device => exists_sections_report_iff mem_condition_sections
      fun _ _ _ => collect_condition_names
  refine ⟨?_, fun h => ?_⟩
  · rintro ⟨reports, hreports⟩ htype device hdevice
    cases hreports with
    | cron hcron => exact absurd htype hcron
    | unknownDevice _ hunknown => exact absurd hdevice (hunknown device)
    | conditions _ hother hreports =>
        cases hdevice.unique hother
        exact (hsections device).mp ⟨_, hreports⟩
  · by_cases htype : source.type = .device
    · by_cases hknown : ∃ device, RefersTo devices source.device.externalId device
      · obtain ⟨device, hdevice⟩ := hknown
        obtain ⟨reports, hreports⟩ := (hsections device).mpr (h htype device hdevice)
        exact ⟨reports, .conditions htype hdevice hreports⟩
      · exact ⟨_, .unknownDevice htype fun device hdevice => hknown ⟨device, hdevice⟩⟩
    · exact ⟨[], .cron htype⟩

theorem exists_action_report_iff :
    (∃ reports, ActionReport configs devices index action reports) ↔
      ∀ device, RefersTo devices (some action.externalId) device →
        ∀ payloadSection payload, payloadsOf action.set payloadSection = some payload →
          CanBeChecked configs device payloadSection payload := by
  simp only [← collect_payload_returns_iff]
  have hsections : ∀ device : Device,
      (∃ reports, Reports (SectionReport (collectPayloadErrors configs device.configKey)
        (payloadsOf action.set) fun payloadSection => s!"actions.{index}.set.{payloadSection.text}")
          0 [.controls, .measurements] reports) ↔ _ :=
    fun device => exists_sections_report_iff mem_payload_sections fun _ _ _ => collect_payload_names
  refine ⟨?_, fun h => ?_⟩
  · rintro ⟨reports, hreports⟩ device hdevice
    cases hreports with
    | unknownDevice hunknown => exact absurd hdevice (hunknown device)
    | payloads hother hreports =>
        cases hdevice.unique hother
        exact (hsections device).mp ⟨_, hreports⟩
  · by_cases hknown : ∃ device, RefersTo devices (some action.externalId) device
    · obtain ⟨device, hdevice⟩ := hknown
      obtain ⟨reports, hreports⟩ := (hsections device).mpr (h device hdevice)
      exact ⟨reports, .payloads hdevice hreports⟩
    · exact ⟨_, .unknownDevice fun device hdevice => hknown ⟨device, hdevice⟩⟩

/-! ## The scenario -/

theorem validate_scenario_eq :
    validateScenario configs devices trigger actions = (do
      let triggerErrors ← collectFrom (checkSource configs devices) 0 (sourcesOf trigger)
      let actionErrors ← collectFrom (checkAction configs devices) 0 (actions.getD [])
      if (triggerErrors ++ actionErrors).isEmpty then return ()
      else throw (.customValidation (triggerErrors ++ actionErrors))) := by
  unfold validateScenario
  rw [validate_actions_eq]
  cases trigger with
  | none => rfl
  | some trigger =>
      dsimp only
      rw [validate_trigger_sources_eq]
      rfl

theorem scenario_report_iff :
    ScenarioReport configs devices trigger actions reports ↔
      ∃ triggerErrors actionErrors,
        collectFrom (checkSource configs devices) 0 (sourcesOf trigger) = .ok triggerErrors ∧
          collectFrom (checkAction configs devices) 0 (actions.getD []) = .ok actionErrors ∧
            reports = triggerErrors ++ actionErrors :=
  exists₂_congr fun _ _ => and_congr
    (collect_from_ok_iff fun _ _ _ _ => source_report_iff).symm
    (and_congr_left fun _ => (collect_from_ok_iff fun _ _ _ _ => action_report_iff).symm)

/-- A scenario with a report is accepted if the report is empty, and the report is thrown if it is
not. -/
theorem validate_of_report (h : ScenarioReport configs devices trigger actions reports) :
    validateScenario configs devices trigger actions =
      if reports.isEmpty then .ok () else .error (.customValidation reports) := by
  obtain ⟨triggerErrors, actionErrors, htrigger, hactions, rfl⟩ := scenario_report_iff.mp h
  rw [validate_scenario_eq, htrigger, ok_bind, hactions, ok_bind]
  rfl

theorem validate_ok_iff :
    validateScenario configs devices trigger actions = .ok () ↔
      ScenarioReport configs devices trigger actions [] := by
  refine ⟨fun h => ?_, fun h => (validate_of_report h).trans (if_pos rfl)⟩
  rw [validate_scenario_eq] at h
  obtain ⟨triggerErrors, htrigger, h⟩ := bind_ok_iff.mp h
  obtain ⟨actionErrors, hactions, h⟩ := bind_ok_iff.mp h
  split at h
  · rename_i hempty
    exact scenario_report_iff.mpr ⟨triggerErrors, actionErrors, htrigger, hactions,
      (List.isEmpty_iff.mp hempty).symm⟩
  · cases h

/-- Nothing is to be reported of valid scenarios only. -/
theorem scenario_nil_iff :
    ScenarioReport configs devices trigger actions [] ↔
      ValidScenario configs devices trigger actions := by
  have hsources : Reports (SourceReport configs devices) 0 (sourcesOf trigger) [] ↔ _ :=
    reports_nil_iff fun _ _ => source_nil_iff
  have hactions : Reports (ActionReport configs devices) 0 (actions.getD []) [] ↔ _ :=
    reports_nil_iff fun _ _ => action_nil_iff
  refine ⟨?_, fun h => ⟨[], [], hsources.mpr h.sources, hactions.mpr h.actions, rfl⟩⟩
  rintro ⟨triggerErrors, actionErrors, htrigger, haction, hnil⟩
  obtain ⟨rfl, rfl⟩ := List.append_eq_nil_iff.mp hnil.symm
  exact ⟨hsources.mp htrigger, hactions.mp haction⟩

/-- There is something to be reported, or nothing, exactly if the scenario can be checked. -/
theorem exists_scenario_report_iff :
    (∃ reports, ScenarioReport configs devices trigger actions reports) ↔
      CheckableScenario configs devices trigger actions := by
  have hsources : (∃ reports, Reports (SourceReport configs devices) 0 (sourcesOf trigger)
      reports) ↔ _ :=
    exists_reports_iff fun _ _ => exists_source_report_iff
  have hactions : (∃ reports, Reports (ActionReport configs devices) 0 (actions.getD [])
      reports) ↔ _ :=
    exists_reports_iff fun _ _ => exists_action_report_iff
  refine ⟨?_, fun h => ?_⟩
  · rintro ⟨reports, triggerErrors, actionErrors, htrigger, haction, -⟩
    exact ⟨hsources.mp ⟨_, htrigger⟩, hactions.mp ⟨_, haction⟩⟩
  · obtain ⟨triggerErrors, htrigger⟩ := hsources.mpr h.sources
    obtain ⟨actionErrors, haction⟩ := hactions.mpr h.actions
    exact ⟨_, triggerErrors, actionErrors, htrigger, haction, rfl⟩

end Proofs

/-- A scenario is validated as expected exactly if its conditions and actions can be checked. -/
theorem validates_iff (configs : List DeviceConfig) (devices : DeviceStore)
    (trigger : Option ScenarioTrigger) (actions : Option (List ScenarioAction)) :
    Validates configs devices trigger actions ↔
      CheckableScenario configs devices trigger actions := by
  rw [← exists_scenario_report_iff]
  refine ⟨fun h => ?_, fun ⟨reports, hreports⟩ => ?_⟩
  · by_cases hvalid : ValidScenario configs devices trigger actions
    · exact ⟨[], scenario_nil_iff.mpr hvalid⟩
    · obtain ⟨reports, hreports, -⟩ := h.throws hvalid
      exact ⟨reports, hreports⟩
  · refine ⟨validate_ok_iff.trans scenario_nil_iff, fun hinvalid => ⟨reports, hreports, ?_⟩⟩
    have hreported : ¬ reports.isEmpty := by
      intro hempty
      rw [List.isEmpty_iff.mp hempty] at hreports
      exact hinvalid (scenario_nil_iff.mp hreports)
    rw [validate_of_report hreports, if_neg hreported]


end Validation

/-- A lamp whose config has a pattern that is no regular expression. -/
def hallLamp : Device where
  externalId := "8f1d2c3b-4a59-4e67-9b80-1c2d3e4f5a6b"
  name := .value "Hall lamp"
  type := .value .led
  brand := .value .esp32
  transportProtocol := .value .mqtt

/-- The devices with the lamp only. -/
def hallDevices : DeviceStore :=
  ⟨[hallLamp], List.pairwise_singleton _ _⟩

/-- The first action is for a device that is gone, the second one names the lamp. -/
def hallActions : List ScenarioAction :=
  [⟨"0e1f2a3b-4c5d-4e6f-8a9b-0c1d2e3f4a5b", {}⟩,
    ⟨hallLamp.externalId, { controls := some nameReport }⟩]

/-- The device that is gone is not reported, since the second action throws. -/
theorem missing_device_not_reported :
    ¬ @Validates .unused [ledConfig] hallDevices none (some hallActions) := by
  rintro ⟨-, hthrows⟩
  have hthrown : @validateScenario .unused [ledConfig] hallDevices none (some hallActions) =
      .error (.thrown "Invalid regular expression: [") := rfl
  have hinvalid : ¬ @ValidScenario .unused [ledConfig] hallDevices none (some hallActions) := by
    rintro ⟨-, hactions⟩
    obtain ⟨device, hdevice, -⟩ := hactions _ List.mem_cons_self
    have hfound := resolve_device_some_iff.mpr hdevice
    cases hfound
  obtain ⟨reports, -, hreports⟩ := hthrows hinvalid
  cases hthrown.symm.trans hreports

end MyHomeHub.ScenariosValidator
