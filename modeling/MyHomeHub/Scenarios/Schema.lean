import MyHomeHub.Common.ExternalCalls
import MyHomeHub.Library.Collection
import MyHomeHub.Scenarios.TriggerLogic

/-!
# The scenario schemas

`scenario.schema` and its parts: the rules a scenario or a group has to satisfy when it is
saved, the unique indexes, and what a save writes. A save of a loaded scenario writes the
fields that changed since it was loaded, so it leaves what another call has written to
the other fields in the meantime.
-/

namespace MyHomeHub.ScenarioSchema

open JavaScript Library Scenarios

/-! ## Rules -/

/-- A text within its length bounds, unless it is not set. -/
def isOptionalText (minLength maxLength : Nat) : Optional String → Bool
  | .value s => minLength ≤ utf16Length s && utf16Length s ≤ maxLength
  | _ => true

/-- `SCENARIO_GROUP_NAME_PATTERN`: `/^(?![0-9]+$)[A-Za-z0-9_]+$/` -/
def matchesGroupNamePattern (name : String) : Bool :=
  let chars := name.toList
  !chars.isEmpty && chars.all (fun c => c.isAlphanum || c = '_') && !chars.all Char.isDigit

/-- The rules of a group name that is set, for scenarios and for groups. -/
def isGroupName (name : String) : Bool :=
  3 ≤ utf16Length name && utf16Length name ≤ 40 &&
    (name = "" || matchesGroupNamePattern name)

/-- `objectIsEmpty` -/
def objectIsEmpty (payload : Option DevicePayload) : Bool :=
  (payload.getD ∅).keys.isEmpty

/-- Whether a trigger source has a device, as a plain object has it: without empty objects. -/
def hasDevice (source : ScenarioTriggerSource) : Bool :=
  source.device.externalId.isSome || !objectIsEmpty source.device.controls ||
    !objectIsEmpty source.device.measurements || !objectIsEmpty source.device.commands

/-- The trigger sources of type cron. -/
def cronSources (trigger : ScenarioTrigger) : List ScenarioTriggerSource :=
  trigger.sources.filter fun source => source.type = .cron

/-- `TRIGGER_SOURCE_TYPE_VALIDATORS[source.type]` -/
def validateTriggerSource (trigger : ScenarioTrigger) (source : ScenarioTriggerSource) : Bool :=
  match source.type with
  | .cron => (cronSources trigger).length ≤ 1 && !hasDevice source
  | .device => source.cron.isNone && source.adjustTo.isNone

/-- `validateDeviceExternalId`, which runs when the id is set. -/
def validateDeviceExternalId (source : ScenarioTriggerSource) : Bool :=
  source.device.externalId.isNone || !objectIsEmpty source.device.controls ||
    !objectIsEmpty source.device.measurements || !objectIsEmpty source.device.commands

/-- `validateScenarioAction` -/
def validateScenarioAction (action : ScenarioAction) : Bool :=
  !objectIsEmpty action.set.controls || !objectIsEmpty action.set.measurements

/-- The paths of the rules that do not hold. -/
def failingPaths (rules : List (String × Bool)) : List String :=
  rules.filterMap fun (path, holds) => if holds then none else some path

theorem failing_paths_nil_iff {rules : List (String × Bool)} :
    failingPaths rules = [] ↔ ∀ rule ∈ rules, rule.2 = true := by
  rw [failingPaths, List.filterMap_eq_nil_iff]
  refine forall₂_congr fun rule _ => ?_
  show (if rule.2 = true then none else some rule.1) = none ↔ _
  split
  · rename_i hholds
    exact iff_of_true rfl hholds
  · rename_i hfails
    exact iff_of_false nofun hfails

section

variable [ExternalCalls]

/-- The rule of the cron expression of a trigger source. -/
def validateCron (source : ScenarioTriggerSource) : Bool :=
  match source.cron with
  | none => source.type ≠ .cron
  | some cron => (source.type ≠ .cron || cron ≠ "") && ExternalCalls.isValidCron cron

/-- The paths of the fields of a scenario that break a rule of the schema. -/
def invalidPaths (scenario : Scenario) : List String :=
  failingPaths [
    ("name", 3 ≤ utf16Length scenario.name && utf16Length scenario.name ≤ 80),
    ("description", isOptionalText 10 255 scenario.description),
    ("group", match scenario.group with
      | .value group => isGroupName group
      | _ => true),
    ("trigger.logic", 1 ≤ utf16Length scenario.trigger.logic &&
      utf16Length scenario.trigger.logic ≤ 80 &&
        (validateTriggerLogic scenario.trigger.sources scenario.trigger.logic).isOk)] ++
  (scenario.trigger.sources.zipIdx.flatMap fun (source, i) => failingPaths [
    (s!"trigger.sources.{i}.type", validateTriggerSource scenario.trigger source),
    (s!"trigger.sources.{i}.cron", validateCron source),
    (s!"trigger.sources.{i}.device.externalId", validateDeviceExternalId source)]) ++
  scenario.actions.zipIdx.flatMap fun (action, i) => failingPaths [
    (s!"actions.{i}.externalId", action.externalId ≠ "" && validateScenarioAction action)]

end

/-! ## Casting -/

/-- The setters of the trigger: texts are trimmed, and the logic is written in capitals. -/
def castTrigger (trigger : ScenarioTrigger) : ScenarioTrigger :=
  { sources := trigger.sources.map fun source => { source with cron := source.cron.map trim }
    logic := (trim trigger.logic).toUpper }

/-- The setter of a text. -/
def castText : Optional String → Optional String
  | .value s => .value (trim s)
  | other => other

/-! ## The collections -/

/-- The index on `externalId`. -/
def externalIdKey (scenario : Scenario) : Option String :=
  some scenario.externalId

/-- The index on `name`. -/
def nameKey (scenario : Scenario) : Option String :=
  some scenario.name

/-- The unique indexes of scenarios. -/
def scenarioIndexes : List (Scenario → Option String) :=
  [externalIdKey, nameKey]

/-- The stored scenarios. -/
abbrev ScenarioStore := Collection Scenario String scenarioIndexes

/-- `findOne({ externalId })` -/
def findByExternalId (scenarios : ScenarioStore) (externalId : String) : Option Scenario :=
  scenarios.docs.find? fun scenario => externalIdKey scenario = some externalId

/-- The index on the name of a group. -/
def groupNameKey (group : ScenarioGroup) : Option String :=
  some group.name

/-- The stored groups. -/
abbrev GroupStore := Collection ScenarioGroup String [groupNameKey]

/-- `findOne({ name })` -/
def findGroup (groups : GroupStore) (name : String) : Option ScenarioGroup :=
  groups.docs.find? fun group => groupNameKey group = some name

/-! ## Saving -/

/-- Which of the nested fields a request has replaced. -/
structure ReplacedFields where
  trigger : Bool
  actions : Bool

/-- The stored scenario after a save: only the modified fields are written. -/
def writeModified (replaced : ReplacedFields) (loaded saved stored : Scenario) : Scenario where
  externalId := stored.externalId
  name := writtenField loaded.name saved.name stored.name
  description := writtenField loaded.description saved.description stored.description
  group := writtenField loaded.group saved.group stored.group
  active := writtenField loaded.active saved.active stored.active
  repeatTimes := writtenField loaded.repeatTimes saved.repeatTimes stored.repeatTimes
  trigger := if replaced.trigger then saved.trigger else stored.trigger
  actions := if replaced.actions then saved.actions else stored.actions

variable [ExternalCalls]

/-- `save` of a new scenario. -/
def saveNew (scenarios : ScenarioStore) (scenario : Scenario) : Except HubError ScenarioStore :=
  match invalidPaths scenario with
  | [] =>
      match scenarios.insert? scenario with
      | some scenarios => .ok scenarios
      | none => .error .duplicateKey
  | paths => .error (.documentValidation paths)

/-- `save` of a loaded scenario. -/
def save (scenarios : ScenarioStore) (replaced : ReplacedFields) (loaded scenario : Scenario) :
    Except HubError ScenarioStore :=
  match invalidPaths scenario with
  | [] =>
      match scenarios.updateFirst
          (fun stored => externalIdKey stored = some loaded.externalId)
          (writeModified replaced loaded scenario) with
      | .ok scenarios => .ok scenarios
      | .error .noDocument => .error .documentNotFound
      | .error .duplicateKey => .error .duplicateKey
  | paths => .error (.documentValidation paths)

/-! ## What a save does -/

section

variable {scenarios scenarios' : ScenarioStore} {loaded scenario stored : Scenario}
  {replaced : ReplacedFields} {externalId : String}

omit [ExternalCalls] in
theorem external_id_key_mem : externalIdKey ∈ scenarioIndexes :=
  List.mem_cons_self

omit [ExternalCalls] in
theorem name_key_mem : nameKey ∈ scenarioIndexes :=
  List.mem_cons_of_mem _ List.mem_cons_self

omit [ExternalCalls] in
/-- A stored scenario is found by its external id. -/
theorem find_by_external_id_iff :
    findByExternalId scenarios externalId = some scenario ↔
      scenario ∈ scenarios ∧ scenario.externalId = externalId := by
  rw [findByExternalId, Collection.find_iff external_id_key_mem, externalIdKey, Option.some.injEq]

/-- A new scenario is stored beside the others, and it satisfies the rules. -/
theorem save_new_ok (h : saveNew scenarios scenario = .ok scenarios') :
    invalidPaths scenario = [] ∧ scenarios.insert? scenario = some scenarios' := by
  rw [saveNew] at h
  split at h
  · rename_i hpaths
    split at h
    · rename_i inserted hinsert
      cases h
      exact ⟨hpaths, hinsert⟩
    · cases h
  · cases h

omit [ExternalCalls] in
/-- Two scenarios without a common key have different external ids and names. -/
theorem apart_of_keys_differ {other : Scenario} (h : KeysDiffer scenarioIndexes other scenario) :
    other.externalId ≠ scenario.externalId ∧ other.name ≠ scenario.name := by
  constructor
  · intro hid
    rcases h externalIdKey external_id_key_mem with hnone | hne
    · cases hnone
    · exact hne (congrArg some hid)
  · intro hname
    rcases h nameKey name_key_mem with hnone | hne
    · cases hnone
    · exact hne (congrArg some hname)

omit [ExternalCalls] in
/-- The external id and the name of a new scenario are new. -/
theorem fresh_of_insert (h : scenarios.insert? scenario = some scenarios') {other : Scenario}
    (hother : other ∈ scenarios) :
    other.externalId ≠ scenario.externalId ∧ other.name ≠ scenario.name :=
  apart_of_keys_differ (Collection.keys_differ_of_insert h hother)

/-- The group of a scenario that follows the rules has a group name. -/
theorem is_group_name_of_valid (h : invalidPaths scenario = []) {name : String}
    (hgroup : scenario.group = .value name) : isGroupName name = true := by
  rw [invalidPaths, List.append_eq_nil_iff, List.append_eq_nil_iff] at h
  have hrules := failing_paths_nil_iff.mp h.1.1 ("group", _)
    (List.mem_cons_of_mem _ (List.mem_cons_of_mem _ List.mem_cons_self))
  rwa [hgroup] at hrules

/-- A save writes what was modified over the stored scenario, and the others are unchanged. -/
theorem save_over_stored (hstored : findByExternalId scenarios loaded.externalId = some stored)
    (h : save scenarios replaced loaded scenario = .ok scenarios') :
    invalidPaths scenario = [] ∧
      ∀ other, other ∈ scenarios' ↔ other = writeModified replaced loaded scenario stored ∨
        (other ∈ scenarios ∧ other.externalId ≠ loaded.externalId) := by
  obtain ⟨hmem, hid⟩ := find_by_external_id_iff.mp hstored
  rw [save] at h
  split at h
  · rename_i hpaths
    split at h
    · rename_i updated hupdate
      cases h
      refine ⟨hpaths, fun other => ?_⟩
      rw [Collection.mem_of_update_stored external_id_key_mem hmem (congrArg some hid) hupdate,
        externalIdKey, ne_eq, Option.some.injEq, ne_eq]
    · cases h
    · cases h
  · cases h

/-- A scenario that follows the rules and keeps its name can be saved. -/
theorem save_unrenamed_ok (hstored : findByExternalId scenarios loaded.externalId = some stored)
    (hvalid : invalidPaths scenario = []) (hname : scenario.name = loaded.name) :
    ∃ scenarios', save scenarios replaced loaded scenario = .ok scenarios' := by
  obtain ⟨hmem, hid⟩ := find_by_external_id_iff.mp hstored
  have hkey : externalIdKey stored = some loaded.externalId := congrArg some hid
  have hkeys : ∀ index ∈ scenarioIndexes,
      index (writeModified replaced loaded scenario stored) = index stored := by
    intro index hindex
    simp only [scenarioIndexes, List.mem_cons, List.not_mem_nil, or_false] at hindex
    rcases hindex with rfl | rfl
    · rfl
    · exact congrArg some (if_pos hname)
  have hdiffer : ∀ other ∈ scenarios, externalIdKey other ≠ some loaded.externalId →
      KeysDiffer scenarioIndexes (writeModified replaced loaded scenario stored) other := by
    intro other hother hne index hindex
    rw [hkeys index hindex]
    exact Collection.keys_differ_of_other hmem hother hkey hne index hindex
  obtain ⟨scenarios', hupdate⟩ :=
    Collection.update_first_some external_id_key_mem hmem hkey hdiffer
  exact ⟨scenarios', by rw [save, hvalid]; simp only [hupdate]⟩

end

end MyHomeHub.ScenarioSchema
