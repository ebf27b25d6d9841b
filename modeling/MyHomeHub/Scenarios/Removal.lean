import MyHomeHub.Scenarios.GroupCounts

/-!
# Removing a scenario

`removeScenario` deletes the document first, then it decrements the count of the group, and
last it unschedules the job of an active scenario. An operation that is rejected leaves the
ones before it done, and an active scenario without a cron source has no job to unschedule.

`removes_iff` says for every state of the hub when a removal does all of its work or none
of it, and `removable_in_step_iff` what is left of that condition where the registry and the
counts follow the stored scenarios.
-/

namespace MyHomeHub.ScenariosService

open JavaScript Library ScenarioSchema ScenarioGroups

/-! ## Outcomes -/

/-- The scenario is returned, its document is deleted, its group counts one less and its jobs are
unregistered, and everything else is as it was. -/
structure Removed (hub : ScenarioHub) (scenario : Scenario) (outcome : ScenarioOutcome) :
    Prop where
  result : outcome.result = .ok scenario
  scenarios : ∀ other, other ∈ outcome.scenarios ↔
    other ∈ hub.scenarios ∧ other.externalId ≠ scenario.externalId
  counts : ∀ name, (groupCount outcome.groups name : Int) =
    groupCount hub.groups name - countedIn scenario.group name
  jobs : ∀ job, job ∈ outcome.jobs ↔ job ∈ hub.jobs ∧ job.externalId ≠ scenario.externalId

/-- The call is rejected, and it leaves the documents, the groups and the jobs as they were. -/
structure RejectedUnchanged (hub : ScenarioHub) (outcome : ScenarioOutcome) : Prop where
  result : ∃ error, outcome.result = .error error
  scenarios : outcome.scenarios = hub.scenarios
  groups : outcome.groups = hub.groups
  jobs : outcome.jobs = hub.jobs

/-- The group of the scenario can lose it, and what is registered under the name of an active
scenario is its own job, while an inactive one has none. -/
structure Removable (hub : ScenarioHub) (scenario : Scenario) : Prop where
  group : ¬ CannotDecrement hub.groups scenario.group
  scheduled : scenario.active = true → ∃ job ∈ hub.jobs, job.name = scenario.name
  jobs : ∀ job ∈ hub.jobs, job.externalId = scenario.externalId ↔
    scenario.active = true ∧ job.name = scenario.name

variable {hub : ScenarioHub} {scenario : Scenario} {externalId : String} {groups : GroupStore}
  {groupName : Optional String}

/-! ## The operations of a removal -/

/-- A group that loses a scenario counts one less. -/
theorem group_count_of_sync_on_delete (h : (syncGroupOnDelete groups groupName).result = .ok ())
    (name : String) : (groupCount (syncGroupOnDelete groups groupName).groups name : Int) =
      groupCount groups name - countedIn groupName name := by
  have hcount := group_count_of_synced h name
  rwa [neg_one_mul, ← sub_eq_add_neg] at hcount

/-- The counts follow the group of the scenario, whatever happens to the job. -/
theorem remove_groups (h : findByExternalId hub.scenarios externalId = some scenario) :
    (removeScenario hub externalId).groups =
      (syncGroupOnDelete hub.groups scenario.group).groups := by
  simp only [removeScenario, h]
  split
  · rfl
  · split
    · split <;> rfl
    · rfl

/-- A removal succeeds when the group can lose the scenario and an active scenario has a name that a
job is registered under. -/
theorem remove_ok_iff (h : findByExternalId hub.scenarios externalId = some scenario) :
    (removeScenario hub externalId).result = .ok scenario ↔
      ¬ CannotDecrement hub.groups scenario.group ∧
        (scenario.active = true → ∃ job ∈ hub.jobs, job.name = scenario.name) := by
  rw [← sync_group_decrement_ok_iff, ← unschedule_ok_iff]
  simp only [removeScenario, h, syncGroupOnDelete]
  cases (syncGroup hub.groups scenario.group (-1)).result with
  | error error =>
      refine iff_of_false (fun h => ?_) fun h => ?_
      · cases h
      · cases h.1
  | ok value =>
      cases hactive : scenario.active with
      | false => exact iff_of_true rfl ⟨rfl, fun h => by cases h⟩
      | true =>
          rw [if_pos rfl, and_iff_right rfl, imp_iff_right rfl]
          cases unscheduleJob hub.jobs scenario.name with
          | ok jobs => exact iff_of_true rfl ⟨jobs, rfl⟩
          | error error =>
              refine iff_of_false (fun h => ?_) fun h => ?_
              · cases h
              · obtain ⟨jobs', hok⟩ := h
                cases hok

/-- A removal never leaves the documents as they were. -/
theorem not_rejected_unchanged (h : findByExternalId hub.scenarios externalId = some scenario) :
    ¬ RejectedUnchanged hub (removeScenario hub externalId) := by
  intro hunchanged
  obtain ⟨hstored, hid⟩ := find_by_external_id_iff.mp h
  have hmem := (mem_of_remove h scenario).mp (hunchanged.scenarios ▸ hstored)
  exact hmem.2 hid

/-- A removal does all of its work or none of it exactly when the scenario is removable. -/
theorem removes_iff (hub : ScenarioHub) (externalId : String) (scenario : Scenario)
    (h : findByExternalId hub.scenarios externalId = some scenario) :
    Removed hub scenario (removeScenario hub externalId) ∨
        RejectedUnchanged hub (removeScenario hub externalId) ↔ Removable hub scenario := by
  rw [or_iff_left (not_rejected_unchanged h)]
  obtain ⟨-, rfl⟩ := find_by_external_id_iff.mp h
  constructor
  · intro hremoved
    obtain ⟨hgroup, hscheduled⟩ := (remove_ok_iff h).mp hremoved.result
    refine ⟨hgroup, hscheduled, fun job hjob => ?_⟩
    have hkept := hremoved.jobs job
    rw [mem_of_remove_jobs h hgroup, and_congr_right_iff] at hkept
    rw [← not_iff_not, ← ne_eq, ← hkept hjob, not_and]
  · intro hremovable
    have hok := (remove_ok_iff h).mpr ⟨hremovable.group, hremovable.scheduled⟩
    refine ⟨hok, mem_of_remove h, fun name => ?_, fun job => ?_⟩
    · rw [remove_groups h]
      exact group_count_of_sync_on_delete (sync_group_decrement_ok_iff.mpr hremovable.group) name
    · rw [mem_of_remove_jobs h hremovable.group]
      refine and_congr_right fun hjob => ?_
      rw [ne_eq, ne_eq, hremovable.jobs job hjob, not_and]

/-- Where the registry and the counts follow the stored scenarios, exactly the active scenarios
without a cron source are not removable. -/
theorem removable_in_step_iff (hstep : JobsInStep hub.scenarios hub.jobs)
    (hgroups : GroupInvariant hub.scenarios hub.groups) (h : scenario ∈ hub.scenarios) :
    Removable hub scenario ↔ (scenario.active = true → isCronScenario scenario = true) := by
  have hown : ∀ job ∈ hub.jobs, job.name = scenario.name ↔ jobOf scenario = some job :=
    fun job hjob => job_name_iff hstep h hjob
  have hscheduled : (∃ job ∈ hub.jobs, job.name = scenario.name) ↔ (jobOf scenario).isSome := by
    rw [← unschedule_ok_iff, unschedule_in_step_ok_iff hstep h]
  have hcron : scenario.active = true →
      ((jobOf scenario).isSome ↔ isCronScenario scenario = true) := by
    intro hactive
    rw [← cron_and_active_iff, hactive, Bool.and_true]
  constructor
  · intro hremovable hactive
    exact (hcron hactive).mp (hscheduled.mp (hremovable.scheduled hactive))
  · intro hsource
    refine ⟨hgroups.can_decrement h, fun hactive => ?_, fun job hjob => ?_⟩
    · exact hscheduled.mpr ((hcron hactive).mpr (hsource hactive))
    · rw [hown job hjob]
      constructor
      · intro hid
        obtain ⟨other, hother, hjobOf⟩ := (hstep job).mp hjob
        have hsame := eq_of_external_id h hother ((job_of_fields hjobOf).2.symm.trans hid)
        rw [hsame] at hjobOf
        exact ⟨(job_of_eq_some_iff.mp hjobOf).1, hjobOf⟩
      · intro hjobOf
        exact (job_of_fields hjobOf.2).2

/-! ## A scenario that is triggered by a device -/

/-- A request for a scenario of a group that switches the lamp on whenever it is switched off. -/
def keepOnDto : CreateScenarioDto where
  name := "Keep on"
  group := .value "lights"
  trigger := ⟨[{
    type := .device
    device := {
      externalId := some lampId
      controls := some (.ofAssignments [⟨"on", .bool false⟩]) } }], "1"⟩
  actions := [⟨lampId, { controls := some (.ofAssignments [⟨"on", .bool true⟩]) }⟩]

/-- The hub with the scenario, which is active. -/
def keepOnAdded : ScenarioHub :=
  @complete .unused lampHub (.addScenario morningId keepOnDto)

/-- The scenario with a cron source is removed along with its job. -/
theorem removes_iff_morning :
    ∃ scenario, findByExternalId morningAdded.scenarios morningId = some scenario ∧
      (Removed morningAdded scenario (removeScenario morningAdded morningId) ∨
        RejectedUnchanged morningAdded (removeScenario morningAdded morningId)) := by
  have hfound : (findByExternalId morningAdded.scenarios morningId).isSome = true := by
    decide +kernel
  have hstored : ∀ stored ∈ morningAdded.scenarios.docs,
      (syncGroup morningAdded.groups stored.group (-1)).result = .ok () ∧
        (∃ job ∈ morningAdded.jobs.docs, job.name = stored.name) ∧
          ∀ job ∈ morningAdded.jobs.docs, job.externalId = stored.externalId ↔
            stored.active = true ∧ job.name = stored.name := by
    decide +kernel
  obtain ⟨scenario, hscenario⟩ := Option.isSome_iff_exists.mp hfound
  obtain ⟨hgroup, hscheduled, hjobs⟩ := hstored scenario (find_by_external_id_iff.mp hscenario).1
  exact ⟨scenario, hscenario, (removes_iff morningAdded morningId scenario hscenario).mpr
    ⟨sync_group_decrement_ok_iff.mp hgroup, fun _ => hscheduled, hjobs⟩⟩

/-- The active scenario without a cron source is deleted and no longer counted, but the call is
rejected. -/
theorem device_scenario_half_removed :
    @scheduleExistingScenarios .unused lampHub.scenarios = .ok lampHub.jobs ∧
      Reaches (@Completes .unused) anyAction lampHub keepOnAdded ∧
      (∃ scenario, findByExternalId keepOnAdded.scenarios morningId = some scenario) ∧
      groupCount keepOnAdded.groups "lights" = 1 ∧
      groupCount (removeScenario keepOnAdded morningId).groups "lights" = 0 ∧
      ∀ scenario, ¬ (Removed keepOnAdded scenario (removeScenario keepOnAdded morningId) ∨
        RejectedUnchanged keepOnAdded (removeScenario keepOnAdded morningId)) := by
  have hrejected : (removeScenario keepOnAdded morningId).result.isOk = false := by
    decide +kernel
  refine ⟨rfl, Reaches.of_step trivial (@Completes.unchanged .unused _ _),
    Option.isSome_iff_exists.mp (by decide +kernel), by decide +kernel, by decide +kernel,
    fun scenario h => ?_⟩
  rcases h with hremoved | hunchanged
  · rw [hremoved.result] at hrejected
    cases hrejected
  · exact absurd (congrArg (fun groups => groupCount groups "lights") hunchanged.groups)
      (by decide +kernel)

end MyHomeHub.ScenariosService
