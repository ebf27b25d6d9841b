import MyHomeHub.Library.Runs
import MyHomeHub.Scenarios.Service

/-!
# Scenarios and their cron jobs

The registry of cron jobs is to follow the stored scenarios: it has the job of every active
scenario with a cron trigger source, under the current name of the scenario and with its
current expression, and no other job. The names and external ids of stored scenarios are
unique, so a scenario and its job determine each other.

Each operation is described by what it does to the jobs beside the scenario it is about:
unscheduling leaves them, scheduling adds to them, startup registers all of them, and a
removal deletes a scenario and unschedules it, unless the group of the scenario objects.
-/

namespace MyHomeHub.ScenariosService

open JavaScript Library ScenarioSchema ScenarioGroups ScenariosValidator

/-! ## The job of a scenario -/

/-- The job of the cron source of a scenario. -/
def cronJob (scenario : Scenario) : Option SchedulerJob :=
  (findScenarioCronSource scenario).map fun source =>
    ⟨scenario.name, source.cron, scenario.externalId⟩

/-- The job that is to be registered for a stored scenario. -/
def jobOf (scenario : Scenario) : Option SchedulerJob :=
  if scenario.active then cronJob scenario else none

/-- The registry has the jobs of the stored scenarios and no others. -/
def JobsInStep (scenarios : ScenarioStore) (jobs : JobRegistry) : Prop :=
  ∀ job, job ∈ jobs ↔ ∃ scenario ∈ scenarios, jobOf scenario = some job

/-- The job of a stored scenario other than the one with the id. -/
def JobBeside (scenarios : ScenarioStore) (externalId : String) (job : SchedulerJob) : Prop :=
  ∃ other ∈ scenarios, other.externalId ≠ externalId ∧ jobOf other = some job

variable {scenarios scenarios' : ScenarioStore} {jobs jobs' : JobRegistry}
  {scenario updated : Scenario} {job : SchedulerJob} {externalId : String}

theorem cron_job_fields (h : cronJob scenario = some job) :
    job.name = scenario.name ∧ job.externalId = scenario.externalId := by
  rw [cronJob, Option.map_eq_some_iff] at h
  obtain ⟨source, -, rfl⟩ := h
  exact ⟨rfl, rfl⟩

theorem job_of_eq_some_iff :
    jobOf scenario = some job ↔ scenario.active = true ∧ cronJob scenario = some job := by
  unfold jobOf
  split
  · rename_i hactive
    exact (and_iff_right hactive).symm
  · rename_i hactive
    exact iff_of_false nofun fun h => hactive h.1

theorem job_of_fields (h : jobOf scenario = some job) :
    job.name = scenario.name ∧ job.externalId = scenario.externalId :=
  cron_job_fields (job_of_eq_some_iff.mp h).2

theorem is_cron_scenario_iff : isCronScenario scenario = true ↔ (cronJob scenario).isSome := by
  rw [isCronScenario, cronJob, Option.isSome_map, findScenarioCronSource, List.find?_isSome,
    List.any_eq_true]

/-- The test of `updateScenario` whether a scenario has a job. -/
theorem cron_and_active_iff :
    (isCronScenario scenario && scenario.active) = true ↔ (jobOf scenario).isSome := by
  rw [Bool.and_eq_true, is_cron_scenario_iff, jobOf]
  cases scenario.active <;> simp

/-! ## In step -/

theorem eq_of_external_id {other : Scenario} (h : scenario ∈ scenarios) (hother : other ∈ scenarios)
    (hid : other.externalId = scenario.externalId) : other = scenario :=
  Collection.eq_of_key external_id_key_mem hother h (congrArg some hid) rfl

theorem eq_of_name {other : Scenario} (h : scenario ∈ scenarios) (hother : other ∈ scenarios)
    (hname : other.name = scenario.name) : other = scenario :=
  Collection.eq_of_key name_key_mem hother h (congrArg some hname) rfl

/-- The jobs beside a scenario are the registered ones but its own. -/
theorem job_beside_iff (hstep : JobsInStep scenarios jobs) (h : scenario ∈ scenarios) :
    JobBeside scenarios scenario.externalId job ↔ job ∈ jobs ∧ jobOf scenario ≠ some job := by
  constructor
  · intro h
    obtain ⟨other, hother, hid, hjob⟩ := h
    refine ⟨(hstep job).mpr ⟨other, hother, hjob⟩, fun hown => hid ?_⟩
    exact (job_of_fields hjob).2.symm.trans (job_of_fields hown).2
  · intro h
    obtain ⟨hmem, hown⟩ := h
    obtain ⟨other, hother, hjob⟩ := (hstep job).mp hmem
    refine ⟨other, hother, fun hid => hown ?_, hjob⟩
    rw [← eq_of_external_id h hother hid]
    exact hjob

/-- A registered job has the name of a scenario only if it is the job of that scenario. -/
theorem job_name_iff (hstep : JobsInStep scenarios jobs) (h : scenario ∈ scenarios)
    (hjob : job ∈ jobs) : job.name = scenario.name ↔ jobOf scenario = some job := by
  constructor
  · intro hname
    obtain ⟨other, hother, hown⟩ := (hstep job).mp hjob
    have hsame : other.name = scenario.name := (job_of_fields hown).1.symm.trans hname
    rw [← eq_of_name h hother hsame]
    exact hown
  · intro hown
    exact (job_of_fields hown).1

/-- What it means to be in step when a scenario was deleted. -/
theorem in_step_deleted_iff
    (hmem : ∀ other, other ∈ scenarios' ↔ other ∈ scenarios ∧ other.externalId ≠ externalId) :
    JobsInStep scenarios' jobs' ↔ ∀ job, job ∈ jobs' ↔ JobBeside scenarios externalId job := by
  refine forall_congr' fun job => iff_congr Iff.rfl ?_
  simp only [hmem, JobBeside, and_assoc]

/-- What it means to be in step when a scenario was replaced. -/
theorem in_step_replaced_iff
    (hmem : ∀ other, other ∈ scenarios' ↔
      other = updated ∨ (other ∈ scenarios ∧ other.externalId ≠ externalId)) :
    JobsInStep scenarios' jobs' ↔
      ∀ job, job ∈ jobs' ↔ jobOf updated = some job ∨ JobBeside scenarios externalId job := by
  refine forall_congr' fun job => iff_congr Iff.rfl ?_
  simp only [hmem, JobBeside, or_and_right, exists_or, exists_eq_left, and_assoc]

/-- A scenario can be replaced without a change of the registry if its job stays the same. -/
theorem in_step_unchanged_iff (hstep : JobsInStep scenarios jobs) (h : scenario ∈ scenarios)
    (hid : updated.externalId = scenario.externalId)
    (hmem : ∀ other, other ∈ scenarios' ↔
      other = updated ∨ (other ∈ scenarios ∧ other.externalId ≠ scenario.externalId)) :
    JobsInStep scenarios' jobs ↔ jobOf updated = jobOf scenario := by
  rw [in_step_replaced_iff hmem]
  simp only [job_beside_iff hstep h]
  constructor
  · intro hjobs
    refine Option.ext fun job => ⟨fun hnew => ?_, fun hold => ?_⟩
    · obtain ⟨other, hother, hjob⟩ := (hstep job).mp ((hjobs job).mpr (.inl hnew))
      have hsame : other.externalId = scenario.externalId := by
        rw [← (job_of_fields hjob).2, (job_of_fields hnew).2, hid]
      rw [← eq_of_external_id h hother hsame]
      exact hjob
    · have hregistered : job ∈ jobs := (hstep job).mpr ⟨scenario, h, hold⟩
      rcases (hjobs job).mp hregistered with hnew | ⟨-, hother⟩
      · exact hnew
      · exact absurd hold hother
  · intro hsame job
    rw [hsame]
    by_cases hown : jobOf scenario = some job
    · exact iff_of_true ((hstep job).mpr ⟨scenario, h, hown⟩) (.inl hown)
    · rw [or_iff_right hown, and_iff_left hown]

/-- In step, the registry has one job for each stored scenario that is to have one. -/
theorem JobsInStep.perm (h : JobsInStep scenarios jobs) :
    jobs.docs.Perm (scenarios.docs.filterMap jobOf) := by
  have hjobs : jobs.docs.Nodup := Collection.nodup_of_key List.mem_cons_self fun _ => nofun
  have hscenarios : (scenarios.docs.filterMap jobOf).Nodup := by
    rw [List.Nodup, List.pairwise_filterMap]
    refine scenarios.unique.imp fun {a b} hdiffer job hjob other hother hsame => ?_
    subst hsame
    exact (apart_of_keys_differ hdiffer).1
      ((job_of_fields hjob).2.symm.trans (job_of_fields hother).2)
  rw [List.perm_ext_iff_of_nodup hjobs hscenarios]
  intro job
  rw [List.mem_filterMap]
  exact h job

/-! ## Unscheduling and scheduling -/

/-- Unscheduling takes the job with the name out of the registry. -/
theorem mem_of_unschedule {jobName : String} (h : unscheduleJob jobs jobName = .ok jobs') :
    job ∈ jobs' ↔ job ∈ jobs ∧ job.name ≠ jobName := by
  unfold unscheduleJob at h
  split at h
  · cases h
    rw [Collection.mem_filter, decide_eq_true_eq]
  · cases h

/-- A name is unscheduled if a job is registered under it. -/
theorem unschedule_ok_iff {jobName : String} :
    (∃ jobs', unscheduleJob jobs jobName = .ok jobs') ↔ ∃ job ∈ jobs, job.name = jobName := by
  unfold unscheduleJob
  split
  · rename_i hany
    refine iff_of_true ⟨_, rfl⟩ ?_
    obtain ⟨job, hjob, hname⟩ := List.any_eq_true.mp hany
    exact ⟨job, hjob, of_decide_eq_true hname⟩
  · rename_i hany
    refine iff_of_false nofun fun ⟨job, hjob, hname⟩ => hany ?_
    exact List.any_eq_true.mpr ⟨job, hjob, decide_eq_true hname⟩

/-- In step, unscheduling a scenario leaves the jobs beside it. -/
theorem unschedule_in_step (hstep : JobsInStep scenarios jobs) (h : scenario ∈ scenarios)
    (hunscheduled : unscheduleJob jobs scenario.name = .ok jobs') :
    job ∈ jobs' ↔ JobBeside scenarios scenario.externalId job := by
  rw [mem_of_unschedule hunscheduled, job_beside_iff hstep h]
  refine and_congr_right fun hjob => not_congr ?_
  exact job_name_iff hstep h hjob

/-- In step, a scenario can be unscheduled if it has a job. -/
theorem unschedule_in_step_ok_iff (hstep : JobsInStep scenarios jobs) (h : scenario ∈ scenarios) :
    (∃ jobs', unscheduleJob jobs scenario.name = .ok jobs') ↔ (jobOf scenario).isSome := by
  rw [unschedule_ok_iff, Option.isSome_iff_exists]
  constructor
  · intro h
    obtain ⟨job, hjob, hname⟩ := h
    exact ⟨job, (job_name_iff hstep h hjob).mp hname⟩
  · intro h
    obtain ⟨job, hown⟩ := h
    exact ⟨job, (hstep job).mpr ⟨scenario, h, hown⟩, (job_of_fields hown).1⟩

/-- A scenario without a job leaves the registry to the jobs beside it. -/
theorem beside_of_no_job (hstep : JobsInStep scenarios jobs) (h : scenario ∈ scenarios)
    (hnone : jobOf scenario = none) : job ∈ jobs ↔ JobBeside scenarios scenario.externalId job := by
  rw [job_beside_iff hstep h, hnone]
  exact (and_iff_left nofun).symm

section

variable [ExternalCalls]

/-- The cron package accepts the expression of the job. -/
def CronAccepted (job : SchedulerJob) : Prop :=
  (job.cron.map ExternalCalls.cronJobAccepts).getD false = true

/-- The jobs of the registry were accepted when they were registered. -/
def JobsAccepted (jobs : JobRegistry) : Prop :=
  ∀ job ∈ jobs, CronAccepted job

/-- A scheduled job is registered beside the others, and its expression was accepted. -/
theorem schedule_job_ok (h : scheduleJob jobs job = .ok jobs') :
    CronAccepted job ∧ ∀ other, other ∈ jobs' ↔ other ∈ jobs ∨ other = job := by
  unfold scheduleJob at h
  split at h
  · rename_i haccepted
    split at h
    · rename_i inserted hinsert
      cases h
      exact ⟨haccepted, fun other => Collection.mem_of_insert hinsert⟩
    · cases h
  · cases h

/-- An accepted job can be scheduled if its name is free. -/
theorem schedule_job_some (haccepted : CronAccepted job)
    (hfree : ∀ other ∈ jobs, other.name ≠ job.name) :
    ∃ jobs', scheduleJob jobs job = .ok jobs' := by
  have hkeys : ∀ other ∈ jobs, KeysDiffer [jobNameKey] other job := by
    intro other hother index hindex
    cases List.mem_singleton.mp hindex
    exact .inr fun hsame => hfree other hother (Option.some.inj hsame)
  obtain ⟨inserted, hinsert⟩ := Collection.insert_some hkeys
  refine ⟨inserted, ?_⟩
  unfold CronAccepted at haccepted
  rw [scheduleJob, if_pos haccepted, hinsert]

theorem schedule_scenario_none (h : cronJob scenario = none) :
    scheduleScenarioJob jobs scenario = .ok jobs := by
  rw [cronJob, Option.map_eq_none_iff] at h
  rw [scheduleScenarioJob, h]

/-- Scheduling a scenario succeeds when its job is scheduled. -/
theorem schedule_scenario_ok_iff (h : cronJob scenario = some job) :
    scheduleScenarioJob jobs scenario = .ok jobs' ↔ scheduleJob jobs job = .ok jobs' := by
  rw [cronJob, Option.map_eq_some_iff] at h
  obtain ⟨source, hsource, rfl⟩ := h
  rw [scheduleScenarioJob, hsource]
  dsimp only
  cases scheduleJob jobs ⟨scenario.name, source.cron, scenario.externalId⟩ with
  | ok scheduled => rfl
  | error error => exact iff_of_false nofun nofun

/-- A scheduled scenario is registered beside the others, and its expression was accepted. -/
theorem schedule_scenario_some (hjob : cronJob scenario = some job)
    (h : scheduleScenarioJob jobs scenario = .ok jobs') :
    CronAccepted job ∧ ∀ other, other ∈ jobs' ↔ other ∈ jobs ∨ other = job :=
  schedule_job_ok ((schedule_scenario_ok_iff hjob).mp h)

/-- An accepted expression is scheduled when no job has the name of the scenario. -/
theorem schedule_scenario_free (hjob : cronJob scenario = some job) (h : CronAccepted job)
    (hfree : ∀ other ∈ jobs, other.name ≠ scenario.name) :
    ∃ jobs', scheduleScenarioJob jobs scenario = .ok jobs' := by
  have hname : ∀ other ∈ jobs, other.name ≠ job.name := by
    rw [(cron_job_fields hjob).1]
    exact hfree
  obtain ⟨jobs', hscheduled⟩ := schedule_job_some h hname
  exact ⟨jobs', (schedule_scenario_ok_iff hjob).mpr hscheduled⟩

/-- A job is scheduled if its expression is accepted and its name is free. -/
theorem schedule_ok_iff (hjob : cronJob scenario = some job) :
    (∃ scheduled, scheduleScenarioJob jobs scenario = .ok scheduled) ↔
      CronAccepted job ∧ ∀ other ∈ jobs, other.name ≠ scenario.name := by
  constructor
  · intro h
    obtain ⟨scheduled, hscheduled⟩ := h
    refine ⟨(schedule_scenario_some hjob hscheduled).1, fun other hother hname => ?_⟩
    have hinserted := (schedule_scenario_ok_iff hjob).mp hscheduled
    unfold scheduleJob at hinserted
    split at hinserted
    · split at hinserted
      · rename_i inserted hinsert
        rcases Collection.keys_differ_of_insert hinsert hother jobNameKey
          List.mem_cons_self with hnone | hne
        · cases hnone
        · exact hne (congrArg some (hname.trans (cron_job_fields hjob).1.symm))
      · cases hinserted
    · cases hinserted
  · intro h
    exact schedule_scenario_free hjob h.1 h.2

/-- A scenario that keeps its name and its expression, and is not activated, is rescheduled without
being written back: its old job is gone, and its new one is registered. -/
theorem reschedule_unrenamed {groups : GroupStore} (hname : updated.name = scenario.name)
    (hcron : cronJob updated = cronJob scenario)
    (hactive : updated.active = true → scenario.active = true)
    (haccepted : ∀ job, jobOf updated = some job → CronAccepted job) :
    (rescheduleScenario scenarios groups jobs scenario updated).scenarios = scenarios ∧
      ∀ job ∈ (rescheduleScenario scenarios groups jobs scenario updated).jobs,
        jobOf updated = some job ∨
          (job ∈ jobs ∧ ((jobOf scenario).isSome → job.name ≠ scenario.name)) := by
  unfold rescheduleScenario
  dsimp only
  split
  · rename_i error hunscheduled
    refine ⟨rfl, fun job hjob => .inr ⟨hjob, fun hold hjobName => ?_⟩⟩
    rw [if_pos (cron_and_active_iff.mpr hold)] at hunscheduled
    obtain ⟨rest, hok⟩ := unschedule_ok_iff.mpr ⟨job, hjob, hjobName⟩
    cases hok.symm.trans hunscheduled
  · rename_i rest hunscheduled
    have hrest : ∀ job ∈ rest, job ∈ jobs ∧
        ((jobOf scenario).isSome → job.name ≠ scenario.name) := by
      intro job hjob
      split at hunscheduled
      · obtain ⟨hmem, hne⟩ := (mem_of_unschedule hunscheduled).mp hjob
        exact ⟨hmem, fun _ => hne⟩
      · rename_i hidle
        cases hunscheduled
        exact ⟨hjob, fun hold => absurd (cron_and_active_iff.mpr hold) hidle⟩
    split
    · rename_i hscheduled
      obtain ⟨own, hjobOf⟩ := Option.isSome_iff_exists.mp (cron_and_active_iff.mp hscheduled)
      obtain ⟨hupdatedActive, hown⟩ := job_of_eq_some_iff.mp hjobOf
      have hold : (jobOf scenario).isSome := by
        rw [jobOf, if_pos (hactive hupdatedActive), ← hcron, hown]
        rfl
      obtain ⟨jobs', hok⟩ := schedule_scenario_free hown (haccepted own hjobOf)
        fun other hother => hname ▸ (hrest other hother).2 hold
      rw [hok]
      refine ⟨rfl, fun job hjob => ?_⟩
      rcases ((schedule_scenario_some hown hok).2 job).mp hjob with hother | rfl
      · exact .inr (hrest job hother)
      · exact .inl hjobOf
    · exact ⟨rfl, fun job hjob => .inr (hrest job hjob)⟩

/-! ## Startup -/

/-- Startup registers the jobs of the scenarios it goes through, and all are accepted. -/
theorem schedule_all_ok {active : List Scenario} (haccepted : JobsAccepted jobs)
    (h : active.foldlM scheduleScenarioJob jobs = .ok jobs') :
    JobsAccepted jobs' ∧
      ∀ job, job ∈ jobs' ↔ job ∈ jobs ∨ ∃ scenario ∈ active, cronJob scenario = some job := by
  induction active generalizing jobs with
  | nil =>
      cases h
      exact ⟨haccepted, fun job => by simp⟩
  | cons scenario rest ih =>
      rw [List.foldlM_cons] at h
      cases hscheduled : scheduleScenarioJob jobs scenario with
      | error error =>
          rw [hscheduled] at h
          cases h
      | ok scheduled =>
          rw [hscheduled] at h
          cases hjob : cronJob scenario with
          | none =>
              rw [schedule_scenario_none hjob] at hscheduled
              cases hscheduled
              simpa [hjob] using ih haccepted h
          | some own =>
              obtain ⟨hown, hmem⟩ := schedule_scenario_some hjob hscheduled
              have hall : JobsAccepted scheduled := by
                intro job hmember
                rcases (hmem job).mp hmember with hbefore | rfl
                · exact haccepted job hbefore
                · exact hown
              obtain ⟨hafter, hjobs⟩ := ih hall h
              refine ⟨hafter, fun job => ?_⟩
              simp only [hjobs, hmem, List.mem_cons, or_and_right, exists_or, exists_eq_left, hjob,
                Option.some.injEq, or_assoc, @eq_comm _ own]

/-- After startup the registry is in step with the stored scenarios. -/
theorem startup_in_step (h : scheduleExistingScenarios scenarios = .ok jobs) :
    JobsInStep scenarios jobs ∧ JobsAccepted jobs := by
  have hempty : JobsAccepted .empty := nofun
  obtain ⟨haccepted, hmem⟩ := schedule_all_ok hempty h
  refine ⟨fun job => ?_, haccepted⟩
  have hnone : ¬ job ∈ (Collection.empty : JobRegistry) := nofun
  rw [hmem, or_iff_right hnone]
  simp only [List.mem_filter, job_of_eq_some_iff, and_assoc]
  rfl

/-! ## Removing a scenario -/

section

variable {hub : ScenarioHub}

omit [ExternalCalls] in
/-- `removeScenario` deletes the scenario, whatever it is rejected for afterwards. -/
theorem mem_of_remove (h : findByExternalId hub.scenarios externalId = some scenario)
    (other : Scenario) :
    other ∈ (removeScenario hub externalId).scenarios ↔
      other ∈ hub.scenarios ∧ other.externalId ≠ externalId := by
  have hfilter : (removeScenario hub externalId).scenarios =
      hub.scenarios.filter fun other => other.externalId ≠ externalId := by
    simp only [removeScenario, h]
    split
    · rfl
    · split
      · split <;> rfl
      · rfl
  rw [hfilter, Collection.mem_filter, decide_eq_true_eq]

omit [ExternalCalls] in
/-- A group that cannot lose the scenario keeps `removeScenario` from the registry. -/
theorem remove_jobs_of_rejected (h : findByExternalId hub.scenarios externalId = some scenario)
    (hgroup : CannotDecrement hub.groups scenario.group) :
    (removeScenario hub externalId).jobs = hub.jobs := by
  simp only [removeScenario, h]
  split
  · rfl
  · rename_i hok
    exact absurd hgroup (sync_group_decrement_ok_iff.mp hok)

omit [ExternalCalls] in
/-- Otherwise the job with the name of the scenario is gone, if the scenario is active. -/
theorem mem_of_remove_jobs (h : findByExternalId hub.scenarios externalId = some scenario)
    (hgroup : ¬ CannotDecrement hub.groups scenario.group) :
    job ∈ (removeScenario hub externalId).jobs ↔
      job ∈ hub.jobs ∧ (scenario.active = true → job.name ≠ scenario.name) := by
  have hok : (syncGroupOnDelete hub.groups scenario.group).result = .ok () :=
    sync_group_decrement_ok_iff.mpr hgroup
  simp only [removeScenario, h, hok]
  split
  · rename_i hactive
    rw [forall_prop_of_true hactive]
    split
    · rename_i unscheduled hunscheduled
      exact mem_of_unschedule hunscheduled
    · rename_i error hfailed
      refine (and_iff_left_of_imp fun hjob hname => ?_).symm
      obtain ⟨jobs', hunscheduled⟩ := unschedule_ok_iff.mpr ⟨job, hjob, hname⟩
      rw [hfailed] at hunscheduled
      cases hunscheduled
  · rename_i hactive
    exact (and_iff_left fun h => absurd h hactive).symm

omit [ExternalCalls] in
/-- A removal keeps the registry in step unless the group keeps the job of the scenario. -/
theorem remove_in_step_iff (hstep : JobsInStep hub.scenarios hub.jobs)
    (h : findByExternalId hub.scenarios externalId = some scenario) :
    JobsInStep (removeScenario hub externalId).scenarios (removeScenario hub externalId).jobs ↔
      (CannotDecrement hub.groups scenario.group → jobOf scenario = none) := by
  obtain ⟨hmem, rfl⟩ := find_by_external_id_iff.mp h
  rw [in_step_deleted_iff (mem_of_remove h)]
  simp only [job_beside_iff hstep hmem]
  by_cases hgroup : CannotDecrement hub.groups scenario.group
  · rw [remove_jobs_of_rejected h hgroup, forall_prop_of_true hgroup,
      Option.eq_none_iff_forall_ne_some]
    refine forall_congr' fun job => ⟨fun hjob hown => ?_, fun hother => ?_⟩
    · exact (hjob.mp ((hstep job).mpr ⟨scenario, hmem, hown⟩)).2 hown
    · exact (and_iff_left hother).symm
  · refine iff_of_true (fun job => ?_) fun hrejected => absurd hrejected hgroup
    rw [mem_of_remove_jobs h hgroup]
    refine and_congr_right fun hjob => ?_
    rw [ne_eq, job_name_iff hstep hmem hjob, ← not_and, job_of_eq_some_iff, ← and_assoc, and_self,
      ← job_of_eq_some_iff]

omit [ExternalCalls] in
/-- A removal registers nothing. -/
theorem remove_jobs_subset (hjob : job ∈ (removeScenario hub externalId).jobs) :
    job ∈ hub.jobs := by
  cases h : findByExternalId hub.scenarios externalId with
  | none =>
      rw [removeScenario, h] at hjob
      exact hjob
  | some scenario =>
      by_cases hgroup : CannotDecrement hub.groups scenario.group
      · rw [remove_jobs_of_rejected h hgroup] at hjob
        exact hjob
      · exact ((mem_of_remove_jobs h hgroup).mp hjob).1

end

end

end MyHomeHub.ScenariosService
