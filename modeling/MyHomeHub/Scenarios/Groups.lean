import MyHomeHub.Scenarios.Schema

/-!
# The scenario groups service

`scenario-groups.service`: a group counts the scenarios that name it. The count follows
each scenario that is created, moved or deleted, and a group that the count would take
below zero is not saved.
-/

namespace MyHomeHub.ScenarioGroups

open JavaScript Library ScenarioSchema

/-- The paths of the fields of a group that break a rule of its schema. -/
def invalidGroupPaths (name : String) (scenariosCount : Int) : List String :=
  failingPaths [("name", name ≠ "" && isGroupName name), ("scenariosCount", 0 ≤ scenariosCount)]

/-- `upsertGroup` -/
def upsertGroup (groups : GroupStore) (name : String) (incrementBy : Int) :
    Except HubError GroupStore :=
  match findGroup groups name with
  | some existingGroup =>
      let scenariosCount := existingGroup.scenariosCount + incrementBy
      match invalidGroupPaths name scenariosCount with
      | [] =>
          match groups.updateFirst (fun group => groupNameKey group = some name)
              (fun group => { group with scenariosCount := scenariosCount.toNat }) with
          | .ok groups => .ok groups
          | .error .noDocument => .error .documentNotFound
          | .error .duplicateKey => .error .duplicateKey
      | paths => .error (.documentValidation paths)
  | none =>
      match invalidGroupPaths name incrementBy with
      | [] =>
          match groups.insert? ⟨name, incrementBy.toNat⟩ with
          | some groups => .ok groups
          | none => .error .duplicateKey
      | paths => .error (.documentValidation paths)

/-- The groups after a call, and whether it was rejected. -/
structure GroupsOutcome where
  groups : GroupStore
  result : Except HubError Unit

/-- `upsertGroup` for a name that may be missing. -/
def syncGroup (groups : GroupStore) (groupName : Optional String) (incrementBy : Int) :
    GroupsOutcome :=
  match groupName with
  | .value "" => ⟨groups, .ok ()⟩
  | .value name =>
      match upsertGroup groups name incrementBy with
      | .ok groups => ⟨groups, .ok ()⟩
      | .error error => ⟨groups, .error error⟩
  | _ => ⟨groups, .ok ()⟩

/-- `syncGroupOnCreate` -/
def syncGroupOnCreate (groups : GroupStore) (groupName : Optional String) : GroupsOutcome :=
  syncGroup groups groupName 1

/-- `syncGroupOnDelete` -/
def syncGroupOnDelete (groups : GroupStore) (groupName : Optional String) : GroupsOutcome :=
  syncGroup groups groupName (-1)

/-- `syncGroupOnUpdate` -/
def syncGroupOnUpdate (groups : GroupStore) (oldGroupName newGroupName : Optional String) :
    GroupsOutcome :=
  if oldGroupName = newGroupName then ⟨groups, .ok ()⟩
  else
    let outcome := syncGroup groups oldGroupName (-1)
    match outcome.result with
    | .error _ => outcome
    | .ok () => syncGroup outcome.groups newGroupName 1

/-- The stored scenarios and groups after `deleteGroup`. -/
structure DeleteGroupOutcome where
  scenarios : ScenarioStore
  groups : GroupStore
  result : Except HubError ScenarioGroup

/-- The scenario without its group, if it is of a group. -/
def clearGroup (name : String) (scenario : Scenario) : Scenario :=
  if scenario.group = .value name then { scenario with group := .undefined } else scenario

theorem clear_group_keys (name : String) (scenario : Scenario) :
    ∀ index ∈ scenarioIndexes, index (clearGroup name scenario) = index scenario := by
  intro index hindex
  unfold clearGroup
  split
  · simp only [scenarioIndexes, List.mem_cons, List.not_mem_nil, or_false] at hindex
    rcases hindex with rfl | rfl <;> rfl
  · rfl

/-- `createGroup`: the groups and the new one. The schema trims the name, also in the query. -/
def createGroup (groups : GroupStore) (name : String) :
    Except HubError (GroupStore × ScenarioGroup) :=
  match findGroup groups (trim name) with
  | some _ => .error (.fieldValidation s!"Scenario group '{name}' already exists" "name")
  | none => do
      let groups ← upsertGroup groups (trim name) 0
      return (groups, ⟨trim name, 0⟩)

/-- `deleteGroup`. A group that is not found is not checked for, so its count is read from null. -/
def deleteGroup (scenarios : ScenarioStore) (groups : GroupStore) (name : String)
    (deleteScenarios : Option Bool) : DeleteGroupOutcome :=
  match findGroup groups (trim name) with
  | none => ⟨scenarios, groups, .error .typeError⟩
  | some group =>
      if 0 < group.scenariosCount ∧ deleteScenarios = none then
        ⟨scenarios, groups, .error (.badRequest
          (s!"Cannot delete group '{group.name}' because there are {group.scenariosCount} " ++
            "scenario(s) linked to this group. Use deleteScenarios=true to delete the group and " ++
            "its scenarios, or deleteScenarios=false to clear the group from scenarios."))⟩
      else
        let scenarios :=
          if 0 < group.scenariosCount then
            if deleteScenarios = some true then
              scenarios.filter fun scenario => scenario.group ≠ .value group.name
            else scenarios.mapDocs (clearGroup group.name) (clear_group_keys group.name)
          else scenarios
        ⟨scenarios, groups.filter fun other => groupNameKey other ≠ groupNameKey group,
          .ok group⟩

/-! ## When a group follows its scenarios -/

section

variable {groups groups' : GroupStore} {name : String} {groupName : Optional String}

/-- A group is saved when its name follows the rules and its count is not negative. -/
theorem invalid_group_paths_nil_iff {scenariosCount : Int} :
    invalidGroupPaths name scenariosCount = [] ↔
      name ≠ "" ∧ isGroupName name = true ∧ 0 ≤ scenariosCount := by
  simp [invalidGroupPaths, failing_paths_nil_iff, and_assoc]

theorem find_group_iff {group : ScenarioGroup} :
    findGroup groups name = some group ↔ group ∈ groups ∧ group.name = name := by
  rw [findGroup, Collection.find_iff List.mem_cons_self, groupNameKey, Option.some.injEq]

/-- Groups with different names share no key. -/
theorem group_keys_differ {group other : ScenarioGroup} (h : group.name ≠ other.name) :
    KeysDiffer [groupNameKey] group other := by
  intro index hindex
  cases List.mem_singleton.mp hindex
  exact .inr fun hsame => h (Option.some.inj hsame)

/-- The count that a group has after `upsertGroup`. -/
def countAfter (groups : GroupStore) (name : String) (incrementBy : Int) : Int :=
  match findGroup groups name with
  | some group => group.scenariosCount + incrementBy
  | none => incrementBy

/-- `upsertGroup` succeeds when the group it saves follows the rules: no index is in its way. -/
theorem upsert_group_ok_iff {incrementBy : Int} :
    (∃ groups', upsertGroup groups name incrementBy = .ok groups') ↔
      name ≠ "" ∧ isGroupName name = true ∧ 0 ≤ countAfter groups name incrementBy := by
  rw [← invalid_group_paths_nil_iff]
  cases hfind : findGroup groups name with
  | none =>
      simp only [upsertGroup, countAfter, hfind]
      split
      · rename_i hpaths
        have hfree : ∀ other ∈ groups,
            KeysDiffer [groupNameKey] other ⟨name, incrementBy.toNat⟩ := by
          intro other hother
          apply group_keys_differ
          intro hname
          rw [find_group_iff.mpr ⟨hother, hname⟩] at hfind
          cases hfind
        obtain ⟨inserted, hinsert⟩ := Collection.insert_some hfree
        rw [hinsert]
        exact iff_of_true ⟨inserted, rfl⟩ hpaths
      · rename_i hpaths
        exact iff_of_false nofun hpaths
  | some group =>
      simp only [upsertGroup, countAfter, hfind]
      obtain ⟨hgroup, hname⟩ := find_group_iff.mp hfind
      split
      · rename_i hpaths
        obtain ⟨updated, hupdate⟩ := Collection.update_first_some (c := groups)
          (f := fun other => { other with
            scenariosCount := (group.scenariosCount + incrementBy).toNat })
          List.mem_cons_self hgroup (congrArg some hname) (by
            intro other _ hother
            apply group_keys_differ
            intro hsame
            exact hother (congrArg some (hsame.symm.trans hname)))
        rw [hupdate]
        exact iff_of_true ⟨updated, rfl⟩ hpaths
      · rename_i hpaths
        exact iff_of_false nofun hpaths

/-- `syncGroup` is rejected exactly when it has a name that `upsertGroup` is rejected for. -/
theorem sync_group_ok_iff {incrementBy : Int} :
    (syncGroup groups groupName incrementBy).result = .ok () ↔
      ∀ name, groupName = .value name → name ≠ "" →
        isGroupName name = true ∧ 0 ≤ countAfter groups name incrementBy := by
  cases groupName with
  | undefined => exact iff_of_true rfl nofun
  | null => exact iff_of_true rfl nofun
  | value name =>
      by_cases hempty : name = ""
      · subst hempty
        refine iff_of_true rfl fun other hother hne => ?_
        cases hother
        exact absurd rfl hne
      · have hupsert : (∃ groups', upsertGroup groups name incrementBy = .ok groups') ↔ _ :=
          upsert_group_ok_iff
        rw [syncGroup]
        · cases hresult : upsertGroup groups name incrementBy with
          | ok groups' =>
              refine iff_of_true rfl fun other hother _ => ?_
              cases hother
              exact (hupsert.mp ⟨groups', hresult⟩).2
          | error error =>
              refine iff_of_false nofun fun h => ?_
              obtain ⟨groups', hok⟩ := hupsert.mpr ⟨hempty, h name rfl hempty⟩
              rw [hresult] at hok
              cases hok
        · exact hempty

/-- The group cannot lose a scenario: its name is against the rules, or it counts none. -/
def CannotDecrement (groups : GroupStore) (groupName : Optional String) : Prop :=
  ∃ name, groupName = .value name ∧ name ≠ "" ∧
    (isGroupName name = false ∨
      ∀ group, findGroup groups name = some group → group.scenariosCount = 0)

theorem sync_group_decrement_ok_iff :
    (syncGroup groups groupName (-1)).result = .ok () ↔ ¬ CannotDecrement groups groupName := by
  have hcount (name : String) : 0 ≤ countAfter groups name (-1) ↔
      ¬ ∀ group, findGroup groups name = some group → group.scenariosCount = 0 := by
    unfold countAfter
    cases findGroup groups name with
    | none => simp
    | some group =>
        simp only [Option.some.injEq, forall_eq']
        omega
  rw [sync_group_ok_iff, CannotDecrement]
  simp only [hcount, not_exists, not_and, not_or, Bool.not_eq_false]

/-- A group whose name follows the rules can always gain a scenario. -/
theorem sync_group_increment_ok (h : ∀ name, groupName = .value name → isGroupName name = true) :
    (syncGroup groups groupName 1).result = .ok () := by
  refine sync_group_ok_iff.mpr fun name hname _ => ⟨h name hname, ?_⟩
  unfold countAfter
  split <;> omega

/-- A move to a group whose name follows the rules is rejected by the old group only. -/
theorem sync_group_on_update_ok_iff {oldGroupName : Optional String}
    (h : ∀ name, groupName = .value name → isGroupName name = true) :
    (syncGroupOnUpdate groups oldGroupName groupName).result = .ok () ↔
      ¬ (oldGroupName ≠ groupName ∧ CannotDecrement groups oldGroupName) := by
  unfold syncGroupOnUpdate
  split
  · rename_i hsame
    exact iff_of_true rfl fun hmoved => hmoved.1 hsame
  · rename_i hmoved
    rw [not_and_or, not_not, or_iff_right hmoved, ← sync_group_decrement_ok_iff]
    dsimp only
    split
    · rfl
    · rename_i hleft
      exact iff_of_true (sync_group_increment_ok h) hleft

end

end MyHomeHub.ScenarioGroups
