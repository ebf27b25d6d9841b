import MyHomeHub.Library.Runs
import MyHomeHub.Scenarios.JobRegistry

/-!
# Which calls keep the cron jobs in step

`addScenario`, `updateScenario`, `removeScenario` and `deleteGroup` change the stored
scenarios and the registry one after the other. `complete_in_step_iff` says exactly which
calls leave the two in step, and `jobs_in_step_of_run` carries it over to the runs of such
calls from startup on.
-/

namespace MyHomeHub.ScenariosService

open JavaScript Library ScenarioSchema ScenarioGroups ScenariosValidator

variable {scenarios scenarios' : ScenarioStore} {jobs jobs' : JobRegistry}
  {scenario updated : Scenario} {job : SchedulerJob} {externalId : String} {hub : ScenarioHub}

/-- Being in step is about membership only. -/
theorem in_step_congr (hscenarios : ∀ scenario, scenario ∈ scenarios' ↔ scenario ∈ scenarios)
    (hjobs : ∀ job, job ∈ jobs' ↔ job ∈ jobs) :
    JobsInStep scenarios' jobs' ↔ JobsInStep scenarios jobs := by
  refine forall_congr' fun job => iff_congr (hjobs job) ?_
  simp only [hscenarios]

/-- What it means to be in step when a scenario was added. -/
theorem in_step_added_iff (hstep : JobsInStep scenarios jobs)
    (h : scenarios.insert? scenario = some scenarios') :
    JobsInStep scenarios' jobs' ↔
      ∀ job, job ∈ jobs' ↔ job ∈ jobs ∨ jobOf scenario = some job := by
  refine forall_congr' fun job => iff_congr Iff.rfl ?_
  simp only [Collection.mem_of_insert h, or_and_right, exists_or, exists_eq_left, hstep job]

/-- The name of a new scenario is free in the registry. -/
theorem name_free_of_insert (hstep : JobsInStep scenarios jobs)
    (h : scenarios.insert? scenario = some scenarios') (hjob : job ∈ jobs) :
    job.name ≠ scenario.name := by
  obtain ⟨other, hother, hown⟩ := (hstep job).mp hjob
  rw [(job_of_fields hown).1]
  exact (fresh_of_insert h hother).2

section

variable [ExternalCalls]

/-! ## Adding a scenario -/

omit [ExternalCalls] in
/-- A new scenario whose expression is refused is removed again, and nothing else changes. -/
theorem remove_new_in_step (hstep : JobsInStep hub.scenarios hub.jobs)
    (h : hub.scenarios.insert? scenario = some scenarios') {groups : GroupStore} :
    JobsInStep
      (removeScenario { hub with scenarios := scenarios', groups := groups }
        scenario.externalId).scenarios
      (removeScenario { hub with scenarios := scenarios', groups := groups }
        scenario.externalId).jobs := by
  have hmem : scenario ∈ scenarios' := (Collection.mem_of_insert h).mpr (.inr rfl)
  have hfind : findByExternalId scenarios' scenario.externalId = some scenario :=
    find_by_external_id_iff.mpr ⟨hmem, rfl⟩
  refine (in_step_congr (fun other => ?_) (fun job => ?_)).mpr hstep
  · rw [mem_of_remove hfind, Collection.mem_of_insert h]
    constructor
    · intro h
      obtain ⟨hother | rfl, hid⟩ := h
      · exact hother
      · exact absurd rfl hid
    · intro hother
      exact ⟨.inl hother, (fresh_of_insert h hother).1⟩
  · by_cases hgroup : CannotDecrement groups scenario.group
    · rw [remove_jobs_of_rejected hfind hgroup]
    · rw [mem_of_remove_jobs hfind hgroup]
      exact and_iff_left_of_imp fun hjob _ => name_free_of_insert hstep h hjob

/-- After a new scenario is saved, it is scheduled or removed again. -/
theorem schedule_new_in_step (hstep : JobsInStep hub.scenarios hub.jobs)
    (haccepted : JobsAccepted hub.jobs) (h : saveNew hub.scenarios scenario = .ok scenarios') :
    JobsInStep (scheduleNewScenario hub scenarios' scenario).scenarios
        (scheduleNewScenario hub scenarios' scenario).jobs ∧
      JobsAccepted (scheduleNewScenario hub scenarios' scenario).jobs := by
  obtain ⟨hvalid, hinsert⟩ := save_new_ok h
  have hsynced : (syncGroupOnCreate hub.groups scenario.group).result = .ok () :=
    sync_group_increment_ok fun _ => is_group_name_of_valid hvalid
  have hwithout (hnone : jobOf scenario = none) : JobsInStep scenarios' hub.jobs := by
    rw [in_step_added_iff hstep hinsert, hnone]
    exact fun job => (or_iff_left nofun).symm
  simp only [scheduleNewScenario, hsynced]
  split
  · rename_i hactive
    cases hjob : cronJob scenario with
    | none =>
        rw [schedule_scenario_none hjob]
        exact ⟨hwithout (by rw [jobOf, if_pos hactive, hjob]), haccepted⟩
    | some own =>
        split
        · rename_i scheduled hscheduled
          obtain ⟨hown, hmem⟩ := schedule_scenario_some hjob hscheduled
          have hjobOf : jobOf scenario = some own := by rw [jobOf, if_pos hactive, hjob]
          constructor
          · rw [in_step_added_iff hstep hinsert, hjobOf]
            intro job
            rw [hmem, Option.some.injEq, @eq_comm _ own]
          · intro job hmember
            rcases (hmem job).mp hmember with hbefore | rfl
            · exact haccepted job hbefore
            · exact hown
        · refine ⟨remove_new_in_step hstep hinsert, fun job hmember => haccepted job ?_⟩
          have hkept : job ∈ (removeScenario { hub with
              scenarios := scenarios'
              groups := (syncGroupOnCreate hub.groups scenario.group).groups }
              scenario.externalId).jobs := hmember
          apply remove_jobs_subset at hkept
          exact hkept
  · rename_i hinactive
    exact ⟨hwithout (if_neg hinactive), haccepted⟩

/-- `addScenario` keeps the registry in step, also when it is rejected. -/
theorem add_in_step (hstep : JobsInStep hub.scenarios hub.jobs)
    (haccepted : JobsAccepted hub.jobs) (dto : CreateScenarioDto) :
    JobsInStep (addScenario hub externalId dto).scenarios (addScenario hub externalId dto).jobs ∧
      JobsAccepted (addScenario hub externalId dto).jobs := by
  unfold addScenario
  split
  · exact ⟨hstep, haccepted⟩
  · dsimp only
    split
    · exact ⟨hstep, haccepted⟩
    · rename_i added scenarios' hsaved
      obtain ⟨-, -, hsaved⟩ := bind_ok_iff.mp hsaved
      obtain ⟨sources, -, hsaved⟩ := bind_ok_iff.mp hsaved
      obtain ⟨inserted, hinserted, hsame⟩ := bind_ok_iff.mp hsaved
      cases hsame
      exact schedule_new_in_step hstep haccepted hinserted

/-! ## Rescheduling -/

omit [ExternalCalls] in
/-- `updateScenario` first takes the job of the old scenario out of the registry. -/
theorem unschedule_old (hstep : JobsInStep scenarios jobs) (h : scenario ∈ scenarios) :
    ∃ rest, (if isCronScenario scenario && scenario.active then unscheduleJob jobs scenario.name
        else .ok jobs) = .ok rest ∧
      ∀ job, job ∈ rest ↔ JobBeside scenarios scenario.externalId job := by
  split
  · rename_i hcron
    obtain ⟨rest, hrest⟩ :=
      (unschedule_in_step_ok_iff hstep h).mpr (cron_and_active_iff.mp hcron)
    exact ⟨rest, hrest, fun job => unschedule_in_step hstep h hrest⟩
  · rename_i hcron
    rw [cron_and_active_iff, Bool.not_eq_true, Option.isSome_eq_false_iff,
      Option.isNone_iff_eq_none] at hcron
    exact ⟨jobs, rfl, fun job => beside_of_no_job hstep h hcron⟩

omit [ExternalCalls] in
/-- No job beside a scenario has a name that the scenario may have. -/
theorem name_ne_of_beside (hmem : ∀ other, other ∈ scenarios' ↔
      other = updated ∨ (other ∈ scenarios ∧ other.externalId ≠ externalId))
    (hid : updated.externalId = externalId) (hjob : JobBeside scenarios externalId job) :
    job.name ≠ updated.name := by
  obtain ⟨other, hother, hne, hown⟩ := hjob
  intro hname
  have hupdated : updated ∈ scenarios' := (hmem updated).mpr (.inl rfl)
  have hstored : other ∈ scenarios' := (hmem other).mpr (.inr ⟨hother, hne⟩)
  rw [(job_of_fields hown).1] at hname
  rw [eq_of_name hupdated hstored hname] at hne
  exact hne hid

omit [ExternalCalls] in
/-- A scenario that is written back has its old job. -/
theorem job_of_restore_fields (hid : updated.externalId = scenario.externalId) :
    jobOf (restoreFields scenario updated) = jobOf scenario := by
  unfold jobOf cronJob findScenarioCronSource restoreFields
  rw [hid]

omit [ExternalCalls] in
theorem restore_fields_keys (hid : updated.externalId = scenario.externalId) :
    ∀ index ∈ scenarioIndexes, index (restoreFields scenario updated) = index scenario := by
  intro index hindex
  simp only [scenarioIndexes, List.mem_cons, List.not_mem_nil, or_false] at hindex
  rcases hindex with rfl | rfl
  · exact congrArg some hid
  · rfl

omit [ExternalCalls] in
/-- The old scenario can be written back over the updated one: its keys were its own. -/
theorem restore_scenario_ok (h : scenario ∈ scenarios)
    (hid : updated.externalId = scenario.externalId)
    (hmem : ∀ other, other ∈ scenarios' ↔
      other = updated ∨ (other ∈ scenarios ∧ other.externalId ≠ scenario.externalId)) :
    ∃ restored, restoreScenario scenarios' scenario = .ok restored ∧
      ∀ other, other ∈ restored ↔ other = restoreFields scenario updated ∨
        (other ∈ scenarios ∧ other.externalId ≠ scenario.externalId) := by
  have hupdated : updated ∈ scenarios' := (hmem updated).mpr (.inl rfl)
  have hkey : externalIdKey updated = some scenario.externalId := congrArg some hid
  have hdiffer : ∀ other ∈ scenarios', externalIdKey other ≠ some scenario.externalId →
      KeysDiffer scenarioIndexes (restoreFields scenario updated) other := by
    intro other hother hne index hindex
    rw [restore_fields_keys hid index hindex]
    rcases (hmem other).mp hother with rfl | ⟨hold, -⟩
    · exact absurd hkey hne
    · exact Collection.keys_differ_of_other h hold rfl hne index hindex
  obtain ⟨restored, hrestored⟩ :=
    Collection.update_first_some external_id_key_mem hupdated hkey hdiffer
  refine ⟨restored, by rw [restoreScenario, hrestored], fun other => ?_⟩
  rw [Collection.mem_of_update_stored external_id_key_mem hupdated hkey hrestored, hmem]
  constructor
  · intro h
    rcases h with hown | ⟨rfl | hother, hne⟩
    · exact .inl hown
    · exact absurd hkey hne
    · exact .inr hother
  · intro h
    rcases h with hown | ⟨hother, hne⟩
    · exact .inl hown
    · exact .inr ⟨.inr ⟨hother, hne⟩, fun hsome => hne (Option.some.inj hsome)⟩

/-- If the new expression is refused, the rollback schedules the old scenario, active or not. -/
def RollbackKeepsJobs (scenario updated : Scenario) : Prop :=
  (∃ job, jobOf updated = some job ∧ ¬ CronAccepted job) →
    ∀ old, cronJob scenario = some old → CronAccepted old → scenario.active = true

/-- Scheduling fails for an expression that is refused. -/
theorem schedule_scenario_error (jobs : JobRegistry) (hjob : cronJob scenario = some job)
    (h : ¬ CronAccepted job) :
    ∃ error, scheduleScenarioJob jobs scenario = .error error := by
  cases hscheduled : scheduleScenarioJob jobs scenario with
  | error error => exact ⟨error, rfl⟩
  | ok scheduled => exact absurd (schedule_scenario_some hjob hscheduled).1 h

section

variable {rest : JobRegistry} (hstep : JobsInStep scenarios jobs)
  (haccepted : JobsAccepted jobs) (h : scenario ∈ scenarios)
  (hid : updated.externalId = scenario.externalId)
  (hrest : ∀ job, job ∈ rest ↔ JobBeside scenarios scenario.externalId job)

include hstep haccepted h hrest

theorem rest_accepted : JobsAccepted rest :=
  fun job hjob => haccepted job ((job_beside_iff hstep h).mp ((hrest job).mp hjob)).1

include hid

/-- The rollback registers the job of the old scenario, which is right if it was active. -/
theorem schedule_old_ok
    (hmem : ∀ other, other ∈ scenarios' ↔ other = restoreFields scenario updated ∨
      (other ∈ scenarios ∧ other.externalId ≠ scenario.externalId))
    (hscheduled : scheduleScenarioJob rest scenario = .ok jobs') :
    JobsAccepted jobs' ∧ (JobsInStep scenarios' jobs' ↔
      ∀ old, cronJob scenario = some old → CronAccepted old → scenario.active = true) := by
  have hrestAccepted := rest_accepted hstep haccepted h hrest
  rw [in_step_replaced_iff hmem, job_of_restore_fields hid]
  cases hjob : cronJob scenario with
  | none =>
      rw [schedule_scenario_none hjob] at hscheduled
      cases hscheduled
      refine ⟨hrestAccepted, iff_of_true (fun job => ?_) nofun⟩
      -- without a cron source the old scenario owns no job
      rw [hrest, or_iff_right]
      intro hown
      rw [(job_of_eq_some_iff.mp hown).2] at hjob
      cases hjob
  | some old =>
      obtain ⟨hold, hafter⟩ := schedule_scenario_some hjob hscheduled
      constructor
      · intro job hmember
        rcases (hafter job).mp hmember with hbefore | rfl
        · exact hrestAccepted job hbefore
        · exact hold
      · simp only [hafter, hrest, Option.some.injEq, forall_eq', hold, forall_const]
        -- the job is registered, so somebody has to own it, and no other scenario has the name
        constructor
        · intro hjobs
          rcases (hjobs old).mp (.inr rfl) with hown | ⟨other, -, hne, hother⟩
          · exact (job_of_eq_some_iff.mp hown).1
          · exact absurd ((job_of_fields hother).2.symm.trans (cron_job_fields hjob).2) hne
        · intro hactive job
          rw [jobOf, if_pos hactive, hjob, Option.some.injEq, @eq_comm _ old, or_comm]

/-- The rollback registers nothing when the old expression is refused as well. -/
theorem schedule_old_error {error : HubError}
    (hmem : ∀ other, other ∈ scenarios' ↔ other = restoreFields scenario updated ∨
      (other ∈ scenarios ∧ other.externalId ≠ scenario.externalId))
    (hscheduled : scheduleScenarioJob rest scenario = .error error) :
    JobsInStep scenarios' rest ∧
      ∀ old, cronJob scenario = some old → ¬ CronAccepted old := by
  have hrefused : ∀ old, cronJob scenario = some old → ¬ CronAccepted old := by
    intro old hjob hold
    have hfree : ∀ other ∈ rest, other.name ≠ scenario.name := by
      intro other hother hname
      obtain ⟨hregistered, hne⟩ := (job_beside_iff hstep h).mp ((hrest other).mp hother)
      exact hne ((job_name_iff hstep h hregistered).mp hname)
    obtain ⟨jobs', hok⟩ := schedule_scenario_free hjob hold hfree
    rw [hscheduled] at hok
    cases hok
  refine ⟨?_, hrefused⟩
  rw [in_step_replaced_iff hmem, job_of_restore_fields hid]
  intro job
  rw [hrest, or_iff_right]
  intro hown
  have hregistered : job ∈ jobs := (hstep job).mpr ⟨scenario, h, hown⟩
  exact hrefused job (job_of_eq_some_iff.mp hown).2 (haccepted job hregistered)

end

/-- Rescheduling keeps the registry in step except for a rollback of an inactive scenario. -/
theorem reschedule_in_step_iff {groups : GroupStore} (hstep : JobsInStep scenarios jobs)
    (haccepted : JobsAccepted jobs) (h : scenario ∈ scenarios)
    (hid : updated.externalId = scenario.externalId)
    (hmem : ∀ other, other ∈ scenarios' ↔
      other = updated ∨ (other ∈ scenarios ∧ other.externalId ≠ scenario.externalId)) :
    JobsAccepted (rescheduleScenario scenarios' groups jobs scenario updated).jobs ∧
      (JobsInStep (rescheduleScenario scenarios' groups jobs scenario updated).scenarios
        (rescheduleScenario scenarios' groups jobs scenario updated).jobs ↔
          RollbackKeepsJobs scenario updated) := by
  obtain ⟨rest, hunscheduled, hrest⟩ := unschedule_old hstep h
  have hrestAccepted := rest_accepted hstep haccepted h hrest
  simp only [rescheduleScenario, hunscheduled]
  split
  · rename_i hcron
    obtain ⟨job, hjobOf⟩ := Option.isSome_iff_exists.mp (cron_and_active_iff.mp hcron)
    have hjob := (job_of_eq_some_iff.mp hjobOf).2
    by_cases hown : CronAccepted job
    · -- the new expression is accepted, and no other job has the new name
      obtain ⟨jobs', hscheduled⟩ := schedule_scenario_free hjob hown
        fun other hother => name_ne_of_beside hmem hid ((hrest other).mp hother)
      obtain ⟨-, hafter⟩ := schedule_scenario_some hjob hscheduled
      rw [hscheduled]
      constructor
      · intro other hother
        rcases (hafter other).mp hother with hbefore | rfl
        · exact hrestAccepted other hbefore
        · exact hown
      · refine iff_of_true ?_ ?_
        · rw [in_step_replaced_iff hmem, hjobOf]
          intro other
          rw [hafter, hrest, Option.some.injEq, @eq_comm _ job, or_comm]
        · intro h
          obtain ⟨refused, hrefused, hne⟩ := h
          rw [hjobOf] at hrefused
          cases hrefused
          exact absurd hown hne
    · -- the new expression is refused, and the rollback decides
      obtain ⟨error, herror⟩ := schedule_scenario_error rest hjob hown
      obtain ⟨restored, hrestored, hmemRestored⟩ := restore_scenario_ok h hid hmem
      have hrollback : RollbackKeepsJobs scenario updated ↔
          ∀ old, cronJob scenario = some old → CronAccepted old → scenario.active = true :=
        forall_prop_of_true ⟨job, hjobOf, hown⟩
      rw [herror, hrollback]
      dsimp only
      rw [hrestored]
      dsimp only
      split
      · rename_i scheduled hscheduled
        exact schedule_old_ok hstep haccepted h hid hrest hmemRestored hscheduled
      · rename_i hfailed
        obtain ⟨hrestored, hrefused⟩ :=
          schedule_old_error hstep haccepted h hid hrest hmemRestored hfailed
        exact ⟨hrestAccepted,
          iff_of_true hrestored fun old hold haccept => absurd haccept (hrefused old hold)⟩
  · rename_i hcron
    rw [cron_and_active_iff, Bool.not_eq_true, Option.isSome_eq_false_iff,
      Option.isNone_iff_eq_none] at hcron
    -- the updated scenario has no job, so there is nothing to be refused
    refine ⟨hrestAccepted, iff_of_true ?_ ?_⟩
    · rw [in_step_replaced_iff hmem, hcron]
      intro job
      rw [hrest, or_iff_right nofun]
    · intro h
      obtain ⟨job, hjob, -⟩ := h
      rw [hcron] at hjob
      cases hjob

/-! ## Updating a scenario -/

/-- `updateScenario` saves the updated scenario: it is found, valid and accepted by the schema. -/
structure SavesUpdate (hub : ScenarioHub) (externalId : String) (scenarioDto : UpdateScenarioDto)
    (scenario updated : Scenario) (scenarios : ScenarioStore) : Prop where
  found : findByExternalId hub.scenarios externalId = some scenario
  validated : validateScenario hub.configs hub.devices scenarioDto.trigger scenarioDto.actions =
    .ok ()
  prepared : prepareScenario hub.dayTimePoints scenario scenarioDto = .ok updated
  saved : save hub.scenarios (replacedFields scenarioDto) scenario updated = .ok scenarios

/-- The update replaces the scenario by the updated one. -/
theorem SavesUpdate.mem_iff {scenarioDto : UpdateScenarioDto}
    (h : SavesUpdate hub externalId scenarioDto scenario updated scenarios') (other : Scenario) :
    other ∈ scenarios' ↔
      other = updated ∨ (other ∈ hub.scenarios ∧ other.externalId ≠ scenario.externalId) := by
  obtain ⟨hmem, hid⟩ := find_by_external_id_iff.mp h.found
  have hstored : findByExternalId hub.scenarios scenario.externalId = some scenario :=
    find_by_external_id_iff.mpr ⟨hmem, rfl⟩
  have hafter := (save_over_stored hstored h.saved).2 other
  rwa [write_modified_prepared h.prepared] at hafter

/-- What follows the save: the groups are synced, and then the scenario is rescheduled. -/
theorem update_of_saves {scenarioDto : UpdateScenarioDto}
    (h : SavesUpdate hub externalId scenarioDto scenario updated scenarios') :
    updateScenario hub externalId scenarioDto =
      match (syncGroupOnUpdate hub.groups scenario.group updated.group).result with
      | .error error => ⟨scenarios',
          (syncGroupOnUpdate hub.groups scenario.group updated.group).groups, hub.jobs,
          .error error⟩
      | .ok () => rescheduleScenario scenarios'
          (syncGroupOnUpdate hub.groups scenario.group updated.group).groups hub.jobs scenario
          updated := by
  simp only [updateScenario, h.found, h.validated, h.prepared, h.saved, ok_bind]
  rfl

/-- An update that is not saved changes nothing. -/
theorem update_of_not_saves {scenarioDto : UpdateScenarioDto}
    (h : ∀ scenario updated scenarios',
      ¬ SavesUpdate hub externalId scenarioDto scenario updated scenarios') :
    ∃ error, updateScenario hub externalId scenarioDto = reject hub error := by
  unfold updateScenario
  split
  · exact ⟨_, rfl⟩
  · rename_i scenario hfound
    dsimp only
    split
    · exact ⟨_, rfl⟩
    · rename_i updated scenarios' hsaved
      obtain ⟨⟨⟩, hvalidated, hsaved⟩ := bind_ok_iff.mp hsaved
      obtain ⟨prepared, hprepared, hsaved⟩ := bind_ok_iff.mp hsaved
      obtain ⟨stored, hstored, hsame⟩ := bind_ok_iff.mp hsaved
      cases hsame
      exact absurd ⟨hfound, hvalidated, hprepared, hstored⟩ (h _ _ _)

/-- The old group keeps `updateScenario` from the registry, although the scenario is saved. -/
def GroupHoldsBack (groups : GroupStore) (scenario updated : Scenario) : Prop :=
  scenario.group ≠ updated.group ∧ CannotDecrement groups scenario.group

/-- An update that its old group holds back must not change the job, and another one must not
be rolled back to an inactive scenario with an accepted expression. -/
def UpdateKeepsJobs (groups : GroupStore) (scenario updated : Scenario) : Prop :=
  (GroupHoldsBack groups scenario updated → jobOf updated = jobOf scenario) ∧
    (¬ GroupHoldsBack groups scenario updated → RollbackKeepsJobs scenario updated)

theorem update_saved_in_step_iff {scenarioDto : UpdateScenarioDto}
    (hstep : JobsInStep hub.scenarios hub.jobs) (haccepted : JobsAccepted hub.jobs)
    (h : SavesUpdate hub externalId scenarioDto scenario updated scenarios') :
    JobsAccepted (updateScenario hub externalId scenarioDto).jobs ∧
      (JobsInStep (updateScenario hub externalId scenarioDto).scenarios
        (updateScenario hub externalId scenarioDto).jobs ↔
          UpdateKeepsJobs hub.groups scenario updated) := by
  have hmem := (find_by_external_id_iff.mp h.found).1
  have hid := (prepare_scenario_ok h.prepared).1
  have hvalid := (save_over_stored (find_by_external_id_iff.mpr ⟨hmem, rfl⟩) h.saved).1
  have hsynced : (syncGroupOnUpdate hub.groups scenario.group updated.group).result = .ok () ↔
      ¬ GroupHoldsBack hub.groups scenario updated :=
    sync_group_on_update_ok_iff fun _ => is_group_name_of_valid hvalid
  rw [update_of_saves h, UpdateKeepsJobs]
  split
  · rename_i error hfailed
    have hheld : GroupHoldsBack hub.groups scenario updated := by
      by_contra hfree
      rw [hsynced.mpr hfree] at hfailed
      cases hfailed
    refine ⟨haccepted, ?_⟩
    rw [forall_prop_of_true hheld, and_iff_left fun hfree => absurd hheld hfree]
    exact in_step_unchanged_iff hstep hmem hid h.mem_iff
  · rename_i hok
    have hfree := hsynced.mp hok
    rw [and_iff_right fun hheld => absurd hheld hfree, forall_prop_of_true hfree]
    exact reschedule_in_step_iff hstep haccepted hmem hid h.mem_iff

theorem update_in_step_iff {scenarioDto : UpdateScenarioDto}
    (hstep : JobsInStep hub.scenarios hub.jobs) (haccepted : JobsAccepted hub.jobs) :
    JobsAccepted (updateScenario hub externalId scenarioDto).jobs ∧
      (JobsInStep (updateScenario hub externalId scenarioDto).scenarios
        (updateScenario hub externalId scenarioDto).jobs ↔
          ∀ scenario updated scenarios',
            SavesUpdate hub externalId scenarioDto scenario updated scenarios' →
              UpdateKeepsJobs hub.groups scenario updated) := by
  by_cases hsaves : ∃ scenario updated scenarios',
      SavesUpdate hub externalId scenarioDto scenario updated scenarios'
  · obtain ⟨scenario, updated, scenarios', hsaves⟩ := hsaves
    obtain ⟨hafter, hiff⟩ := update_saved_in_step_iff hstep haccepted hsaves
    refine ⟨hafter, hiff.trans ⟨fun hkeeps other otherUpdated _ hother => ?_, fun hall => ?_⟩⟩
    · -- the request determines the scenario and what it is updated to
      have hscenario : other = scenario := Option.some.inj (hother.found.symm.trans hsaves.found)
      subst hscenario
      have hupdated : otherUpdated = updated :=
        Except.ok.inj (hother.prepared.symm.trans hsaves.prepared)
      rw [hupdated]
      exact hkeeps
    · exact hall _ _ _ hsaves
  · have hnone : ∀ scenario updated scenarios',
        ¬ SavesUpdate hub externalId scenarioDto scenario updated scenarios' :=
      fun scenario updated scenarios' h => hsaves ⟨scenario, updated, scenarios', h⟩
    obtain ⟨error, hrejected⟩ := update_of_not_saves hnone
    rw [hrejected]
    exact ⟨haccepted, iff_of_true hstep fun _ _ _ h => absurd h (hnone _ _ _)⟩

end

/-! ## Deleting a group -/

/-- Deleting scenarios behind the back of the registry is harmless if they have no jobs. -/
theorem in_step_filter_iff (hstep : JobsInStep scenarios jobs) {keep : Scenario → Bool} :
    JobsInStep (scenarios.filter keep) jobs ↔
      ∀ scenario ∈ scenarios, keep scenario = false → jobOf scenario = none := by
  constructor
  · intro hafter scenario h hdeleted
    by_contra hne
    obtain ⟨job, hown⟩ := Option.ne_none_iff_exists'.mp hne
    obtain ⟨other, hother, hjob⟩ := (hafter job).mp ((hstep job).mpr ⟨scenario, h, hown⟩)
    obtain ⟨hstored, hkept⟩ := Collection.mem_filter.mp hother
    have hid : other.externalId = scenario.externalId :=
      (job_of_fields hjob).2.symm.trans (job_of_fields hown).2
    rw [eq_of_external_id h hstored hid, hdeleted] at hkept
    cases hkept
  · intro hnone job
    rw [hstep job]
    constructor
    · intro h
      obtain ⟨scenario, h, hown⟩ := h
      refine ⟨scenario, Collection.mem_filter.mpr ⟨h, ?_⟩, hown⟩
      by_contra hdeleted
      rw [hnone scenario h (Bool.not_eq_true _ ▸ hdeleted)] at hown
      cases hown
    · intro h
      obtain ⟨scenario, h, hown⟩ := h
      exact ⟨scenario, (Collection.mem_filter.mp h).1, hown⟩

/-- A scenario that loses its group keeps its job. -/
theorem job_of_clear_group (name : String) (scenario : Scenario) :
    jobOf (clearGroup name scenario) = jobOf scenario := by
  unfold clearGroup
  split <;> rfl

theorem in_step_clear_group (hstep : JobsInStep scenarios jobs) (name : String) :
    JobsInStep (scenarios.mapDocs (clearGroup name) (clear_group_keys name)) jobs := by
  intro job
  rw [hstep job]
  constructor
  · intro h
    obtain ⟨scenario, h, hown⟩ := h
    refine ⟨clearGroup name scenario, (Collection.mem_map_docs _).mpr ⟨scenario, h, rfl⟩, ?_⟩
    rw [job_of_clear_group]
    exact hown
  · intro h
    obtain ⟨cleared, hcleared, hown⟩ := h
    obtain ⟨scenario, h, rfl⟩ := (Collection.mem_map_docs _).mp hcleared
    rw [job_of_clear_group] at hown
    exact ⟨scenario, h, hown⟩

/-- The scenarios that `deleteGroup` deletes have no jobs. -/
def DeletesNoJobs (scenarios : ScenarioStore) (groups : GroupStore) (name : String)
    (deleteScenarios : Option Bool) : Prop :=
  ∀ group, findGroup groups (trim name) = some group → 0 < group.scenariosCount →
    deleteScenarios = some true →
      ∀ scenario ∈ scenarios, scenario.group = .value group.name → jobOf scenario = none

/-- `deleteGroup` never touches the registry. -/
theorem delete_group_in_step_iff {groups : GroupStore} {name : String}
    {deleteScenarios : Option Bool} (hstep : JobsInStep scenarios jobs) :
    JobsInStep (deleteGroup scenarios groups name deleteScenarios).scenarios jobs ↔
      DeletesNoJobs scenarios groups name deleteScenarios := by
  unfold deleteGroup DeletesNoJobs
  cases hfind : findGroup groups (trim name) with
  | none =>
      refine iff_of_true hstep fun group hsome => ?_
      cases hsome
  | some group =>
      simp only [Option.some.injEq, forall_eq']
      split
      · rename_i hrefused
        refine iff_of_true hstep fun _ hdelete => ?_
        rw [hrefused.2] at hdelete
        cases hdelete
      · dsimp only
        split
        · rename_i hcount
          split
          · rename_i hdelete
            rw [in_step_filter_iff hstep, forall_prop_of_true hcount, forall_prop_of_true hdelete]
            simp only [ne_eq, decide_not, Bool.not_eq_false', decide_eq_true_eq]
          · rename_i hclear
            exact iff_of_true (in_step_clear_group hstep group.name)
              fun _ hdelete => absurd hdelete hclear
        · rename_i hempty
          exact iff_of_true hstep fun hcount => absurd hcount hempty

/-! ## Runs -/

/-- The calls that change scenarios. -/
inductive ScenarioCall where
  | addScenario (externalId : String) (scenarioDto : CreateScenarioDto)
  | updateScenario (externalId : String) (scenarioDto : UpdateScenarioDto)
  | removeScenario (externalId : String)
  | deleteGroup (name : String) (deleteScenarios : Option Bool)

section

variable [ExternalCalls]

/-- The hub after a call has completed, with a value or with an error. -/
def complete (hub : ScenarioHub) : ScenarioCall → ScenarioHub
  | .addScenario externalId scenarioDto => hub.after (addScenario hub externalId scenarioDto)
  | .updateScenario externalId scenarioDto =>
      hub.after (updateScenario hub externalId scenarioDto)
  | .removeScenario externalId => hub.after (removeScenario hub externalId)
  | .deleteGroup name deleteScenarios =>
      let deleted := deleteGroup hub.scenarios hub.groups name deleteScenarios
      { hub with scenarios := deleted.scenarios, groups := deleted.groups }

/-- A call completes. The devices, the configs and the time of day may be others by the next one. -/
structure Completes (hub : ScenarioHub) (call : ScenarioCall) (next : ScenarioHub) : Prop where
  scenarios : next.scenarios = (complete hub call).scenarios
  groups : next.groups = (complete hub call).groups
  jobs : next.jobs = (complete hub call).jobs

theorem Completes.unchanged (hub : ScenarioHub) (call : ScenarioCall) :
    Completes hub call (complete hub call) :=
  ⟨rfl, rfl, rfl⟩

/-- The calls that keep the registry in step. -/
def KeepsJobsInStep (hub : ScenarioHub) : ScenarioCall → Prop
  | .addScenario _ _ => True
  | .updateScenario externalId scenarioDto => ∀ scenario updated scenarios,
      SavesUpdate hub externalId scenarioDto scenario updated scenarios →
        UpdateKeepsJobs hub.groups scenario updated
  | .removeScenario externalId => ∀ scenario,
      findByExternalId hub.scenarios externalId = some scenario →
        CannotDecrement hub.groups scenario.group → jobOf scenario = none
  | .deleteGroup name deleteScenarios =>
      DeletesNoJobs hub.scenarios hub.groups name deleteScenarios

/-- In step, exactly these calls keep the registry in step. -/
theorem complete_in_step_iff (hstep : JobsInStep hub.scenarios hub.jobs)
    (haccepted : JobsAccepted hub.jobs) (call : ScenarioCall) :
    JobsAccepted (complete hub call).jobs ∧
      (JobsInStep (complete hub call).scenarios (complete hub call).jobs ↔
        KeepsJobsInStep hub call) := by
  cases call with
  | addScenario externalId scenarioDto =>
      obtain ⟨hafter, hall⟩ := add_in_step hstep haccepted scenarioDto
      exact ⟨hall, iff_of_true hafter trivial⟩
  | updateScenario externalId scenarioDto => exact update_in_step_iff hstep haccepted
  | removeScenario externalId =>
      refine ⟨fun job hjob => haccepted job (remove_jobs_subset hjob), ?_⟩
      dsimp only [KeepsJobsInStep]
      cases h : findByExternalId hub.scenarios externalId with
      | none =>
          have hrejected : removeScenario hub externalId = reject hub scenarioNotFound := by
            rw [removeScenario, h]
          rw [complete, hrejected]
          refine iff_of_true hstep fun scenario hsome => ?_
          cases hsome
      | some scenario =>
          simp only [Option.some.injEq, forall_eq']
          exact remove_in_step_iff hstep h
  | deleteGroup name deleteScenarios => exact ⟨haccepted, delete_group_in_step_iff hstep⟩

/-- The registry is in step, and its jobs were accepted. -/
def ScenarioHub.InStep (hub : ScenarioHub) : Prop :=
  JobsInStep hub.scenarios hub.jobs ∧ JobsAccepted hub.jobs

/-- From startup on, the calls that keep the registry in step leave one job for each stored
scenario that is active and has a cron trigger source, and no other job. -/
theorem jobs_in_step_of_run {start : ScenarioHub}
    (hstart : scheduleExistingScenarios start.scenarios = .ok start.jobs)
    (hrun : Reaches Completes KeepsJobsInStep start hub) :
    hub.jobs.docs.Perm (hub.scenarios.docs.filterMap jobOf) := by
  have hinvariant : hub.InStep := by
    refine hrun.invariant (startup_in_step hstart) fun hub call next hcurrent hallowed hnext => ?_
    obtain ⟨hstep, haccepted⟩ := hcurrent
    obtain ⟨hafter, hiff⟩ := complete_in_step_iff hstep haccepted call
    rw [ScenarioHub.InStep, hnext.scenarios, hnext.jobs]
    exact ⟨hiff.mpr hallowed, hafter⟩
  exact hinvariant.1.perm

end

/-! ## A light in the morning -/

/-- Calls that know one cron expression. -/
@[reducible] def morningCalls : ExternalCalls :=
  { ExternalCalls.unused with
    isValidCron := fun cron => cron = "0 7 * * *"
    cronJobAccepts := fun cron => cron = "0 7 * * *" }

/-- The external id of a lamp. -/
def lampId : String :=
  "4b7f3a52-6c1e-4d0a-9f35-2e8d7c6b5a41"

/-- The external id that the schema generates for the scenario. -/
def morningId : String :=
  "0e2d4c1b-8a6f-4b7e-9d3c-5f1a2b3c4d5e"

/-- A hub with a lamp and without scenarios. -/
def lampHub : ScenarioHub where
  devices := ⟨[{
      externalId := lampId
      name := .value "Lamp"
      type := .value .led
      transportProtocol := .value .http }], List.pairwise_singleton _ _⟩
  configs := []
  dayTimePoints _ := (6, 0)
  scenarios := .empty
  groups := .empty
  jobs := .empty

/-- A request for a scenario of a group that switches the lamp on at seven. -/
def morningDto : CreateScenarioDto where
  name := "Morning light"
  group := .value "mornings"
  trigger := ⟨[{ type := .cron, cron := some "0 7 * * *" }], "1"⟩
  actions := [⟨lampId, { controls := some (.ofAssignments [⟨"on", .bool true⟩]) }⟩]

/-- The hub with the scenario. -/
def morningAdded : ScenarioHub :=
  @complete morningCalls lampHub (.addScenario morningId morningDto)

/-- The hub with the scenario under another name. -/
def morningRenamed : ScenarioHub :=
  @complete morningCalls morningAdded (.updateScenario morningId { name := some "Wake up" })

/-- The hub without the group and its scenarios. -/
def morningsDeleted : ScenarioHub :=
  @complete morningCalls morningAdded (.deleteGroup "mornings" (some true))

theorem morning_rename_keeps :
    @KeepsJobsInStep morningCalls morningAdded
      (.updateScenario morningId { name := some "Wake up" }) := by
  intro scenario updated scenarios hsaves
  obtain ⟨hfound, -, hprepared, -⟩ := hsaves
  have hactive : ∀ stored ∈ morningAdded.scenarios.docs, stored.active = true := by
    decide +kernel
  cases Except.ok.inj hprepared
  exact ⟨fun hheld => absurd rfl hheld.1,
    fun _ _ _ _ _ => hactive scenario (find_by_external_id_iff.mp hfound).1⟩

/-- The job follows a scenario that is renamed. -/
theorem jobs_in_step_of_run_renamed :
    morningRenamed.jobs.docs.map (·.name) = ["Wake up"] ∧
      morningRenamed.jobs.docs.Perm (morningRenamed.scenarios.docs.filterMap jobOf) :=
  ⟨by decide +kernel, @jobs_in_step_of_run morningRenamed morningCalls lampHub rfl
    (.tail (.single ⟨.addScenario morningId morningDto, trivial,
      @Completes.unchanged morningCalls _ _⟩)
      ⟨_, morning_rename_keeps, @Completes.unchanged morningCalls _ _⟩)⟩

/-- The group is deleted with its scenario, and the job of the scenario stays registered. -/
theorem deleted_group_leaves_job :
    @scheduleExistingScenarios morningCalls lampHub.scenarios = .ok lampHub.jobs ∧
      Reaches (@Completes morningCalls) anyAction lampHub morningsDeleted ∧
      ¬ morningsDeleted.jobs.docs.Perm (morningsDeleted.scenarios.docs.filterMap jobOf) := by
  refine ⟨rfl, ?_, fun hperm => ?_⟩
  · exact .tail (Reaches.of_step trivial (@Completes.unchanged morningCalls _ _))
      ⟨_, trivial, @Completes.unchanged morningCalls _ _⟩
  · have hlength := hperm.length_eq
    revert hlength
    decide +kernel

end MyHomeHub.ScenariosService
