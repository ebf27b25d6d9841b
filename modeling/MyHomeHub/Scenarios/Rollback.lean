import MyHomeHub.Scenarios.Removal

/-!
# Rolling an update back

When the job of an updated scenario is refused, `updateScenario` writes the old scenario
back and schedules its job again. By then the groups are synced and the old job is
unscheduled. The old document does not remove a field that it does not have, no one syncs
the groups back, and the job of the old scenario is scheduled whether it was active or not.

`rolled_back_iff` says which updates leave no trace.
-/

namespace MyHomeHub.ScenariosService

open JavaScript Library ScenarioSchema ScenarioGroups ScenariosValidator

variable {hub : ScenarioHub} {scenario updated : Scenario} {externalId : String}
  {scenarioDto : UpdateScenarioDto} {stored : ScenarioStore} {groups : GroupStore}
  {jobs rest : JobRegistry}

/-! ## What is left -/

/-- The call is rejected, and the scenarios, the counts and the jobs are those from before. -/
structure RolledBack (hub : ScenarioHub) (outcome : ScenarioOutcome) : Prop where
  result : ∃ error, outcome.result = .error error
  scenarios : ∀ scenario, scenario ∈ outcome.scenarios ↔ scenario ∈ hub.scenarios
  counts : ∀ name, groupCount outcome.groups name = groupCount hub.groups name
  jobs : ∀ job, job ∈ outcome.jobs ↔ job ∈ hub.jobs

/-- The request gives the scenario no field that it does not have, and no other group. -/
structure KeepsAbsentFields (scenario : Scenario) (scenarioDto : UpdateScenarioDto) : Prop where
  description : scenario.description = .undefined → scenarioDto.description = none
  group : ∀ name, scenarioDto.group = some name → scenario.group = .value (trim name)
  repeatTimes : scenario.repeatTimes = .undefined → scenarioDto.repeatTimes = .undefined ∨
    ∃ n, scenarioDto.repeatTimes = .value n ∧ (Value.number n).truthy = false

/-! ## The document -/

/-- The group of the updated scenario is the one of the request, if it has one. -/
theorem prepared_fields (h : prepareScenario hub.dayTimePoints scenario scenarioDto = .ok updated) :
    updated.description = (assignScenario scenario scenarioDto).description ∧
      updated.group = (assignScenario scenario scenarioDto).group ∧
      updated.repeatTimes = (assignScenario scenario scenarioDto).repeatTimes := by
  unfold prepareScenario at h
  dsimp only at h
  split at h
  · obtain ⟨sources, -, hprepared⟩ := bind_ok_iff.mp h
    cases hprepared
    exact ⟨rfl, rfl, rfl⟩
  · cases h
    exact ⟨rfl, rfl, rfl⟩

/-- The group of a scenario stays when the request has none or the same. -/
theorem assigned_group_iff : (assignScenario scenario scenarioDto).group = scenario.group ↔
    ∀ name, scenarioDto.group = some name → scenario.group = .value (trim name) := by
  unfold assignScenario
  cases scenarioDto.group with
  | none => simp
  | some name => simp [eq_comm]

/-- Writing the old scenario back restores it unless an absent field was given a value. -/
theorem restore_fields_iff (hid : updated.externalId = scenario.externalId) :
    restoreFields scenario updated = scenario ↔
      (scenario.description = .undefined → updated.description = .undefined) ∧
        (scenario.group = .undefined → updated.group = .undefined) ∧
        (scenario.repeatTimes = .undefined → updated.repeatTimes = .undefined) := by
  have hfield {α : Type} [DecidableEq α] (old new : Optional α) :
      (if old = .undefined then new else old) = old ↔ (old = .undefined → new = .undefined) := by
    split_ifs with hold
    · rw [hold, imp_iff_right rfl]
    · exact iff_of_true rfl fun h => absurd h hold
  rw [← hfield, ← hfield, ← hfield]
  constructor
  · intro h
    exact ⟨congrArg Scenario.description h, congrArg Scenario.group h,
      congrArg Scenario.repeatTimes h⟩
  · intro h
    obtain ⟨hdescription, hgroup, hrepeatTimes⟩ := h
    rw [restoreFields, hdescription, hgroup, hrepeatTimes, hid]

/-- The old scenario is restored in a group that stays exactly when the request keeps the absent
fields. -/
theorem keeps_absent_fields_iff
    (h : prepareScenario hub.dayTimePoints scenario scenarioDto = .ok updated) :
    restoreFields scenario updated = scenario ∧ updated.group = scenario.group ↔
      KeepsAbsentFields scenario scenarioDto := by
  obtain ⟨hdescription, hgroup, hrepeatTimes⟩ := prepared_fields h
  have hdescriptionKept (hold : scenario.description = .undefined) :
      updated.description = .undefined ↔ scenarioDto.description = none := by
    rw [hdescription, assignScenario]
    cases scenarioDto.description <;> simp [hold]
  have hrepeatTimesKept (hold : scenario.repeatTimes = .undefined) :
      updated.repeatTimes = .undefined ↔ scenarioDto.repeatTimes = .undefined ∨
        ∃ n, scenarioDto.repeatTimes = .value n ∧ (Value.number n).truthy = false := by
    rw [hrepeatTimes, assignScenario]
    cases scenarioDto.repeatTimes with
    | undefined => simp [hold]
    | null => simp
    | value n => cases htruthy : (Value.number n).truthy <;> simp [htruthy, hold]
  rw [restore_fields_iff (prepare_scenario_ok h).1, hgroup, assigned_group_iff]
  constructor
  · intro h
    obtain ⟨⟨hdescription, -, hrepeatTimes⟩, hgroup⟩ := h
    exact ⟨fun hold => (hdescriptionKept hold).mp (hdescription hold), hgroup,
      fun hold => (hrepeatTimesKept hold).mp (hrepeatTimes hold)⟩
  · intro h
    refine ⟨⟨fun hold => (hdescriptionKept hold).mpr (h.description hold), fun hold => ?_,
      fun hold => (hrepeatTimesKept hold).mpr (h.repeatTimes hold)⟩, h.group⟩
    rw [assigned_group_iff.mpr h.group, hold]

/-- The stored scenarios are those from before exactly when the old one was restored. -/
theorem restored_iff {restored : ScenarioStore} (hscenario : scenario ∈ hub.scenarios)
    (hid : updated.externalId = scenario.externalId)
    (hmem : ∀ other, other ∈ restored ↔ other = restoreFields scenario updated ∨
      (other ∈ hub.scenarios ∧ other.externalId ≠ scenario.externalId)) :
    (∀ other, other ∈ restored ↔ other ∈ hub.scenarios) ↔
      restoreFields scenario updated = scenario := by
  constructor
  · intro h
    have hstored := (h _).mp ((hmem (restoreFields scenario updated)).mpr (.inl rfl))
    exact eq_of_external_id hscenario hstored hid
  · intro h other
    rw [hmem, h]
    constructor
    · rintro (rfl | hother)
      · exact hscenario
      · exact hother.1
    · intro hother
      by_cases hsame : other.externalId = scenario.externalId
      · exact .inl (eq_of_external_id hscenario hother hsame)
      · exact .inr ⟨hother, hsame⟩

/-! ## The groups -/

/-- A group that a scenario is moved to counts one more. -/
theorem group_count_of_new_group {oldGroupName : Optional String} {name : String} (hne : name ≠ "")
    (hmoved : oldGroupName ≠ .value name)
    (hsynced : (syncGroupOnUpdate groups oldGroupName (.value name)).result = .ok ()) :
    groupCount (syncGroupOnUpdate groups oldGroupName (.value name)).groups name =
      groupCount groups name + 1 := by
  unfold syncGroupOnUpdate at hsynced ⊢
  rw [if_neg hmoved] at hsynced ⊢
  dsimp only at hsynced ⊢
  cases hleft : (syncGroup groups oldGroupName (-1)).result with
  | error error =>
      rw [hleft] at hsynced
      dsimp only at hsynced
      rw [hleft] at hsynced
      cases hsynced
  | ok value =>
      rw [hleft] at hsynced
      dsimp only at hsynced ⊢
      have hold := group_count_of_synced hleft name
      have hnew := group_count_of_synced hsynced name
      rw [countedIn, if_neg fun h => hmoved h.1, mul_zero, add_zero] at hold
      rw [countedIn, if_pos ⟨rfl, hne⟩, mul_one] at hnew
      omega

/-- The counts are the same after the sync exactly when the scenario stays in its group. -/
theorem counts_of_sync_on_update_iff
    (h : prepareScenario hub.dayTimePoints scenario scenarioDto = .ok updated)
    (hvalid : ValidGroup updated.group)
    (hsynced : (syncGroupOnUpdate groups scenario.group updated.group).result = .ok ()) :
    (∀ name, groupCount (syncGroupOnUpdate groups scenario.group updated.group).groups name =
      groupCount groups name) ↔ updated.group = scenario.group := by
  constructor
  · intro hcounts
    by_contra hmoved
    have hgroup := (prepared_fields h).2.1
    cases hdto : scenarioDto.group with
    | none =>
        rw [assignScenario, hdto] at hgroup
        exact hmoved hgroup
    | some name =>
        rw [assignScenario, hdto] at hgroup
        have hupdated : updated.group = .value (trim name) := hgroup
        have hne : trim name ≠ "" := by
          intro hempty
          exact absurd (hvalid _ hupdated) (by rw [hempty]; decide)
        have hcount := hcounts (trim name)
        rw [hupdated] at hmoved hsynced hcount
        rw [group_count_of_new_group hne (Ne.symm hmoved) hsynced] at hcount
        omega
  · intro hsame name
    rw [syncGroupOnUpdate, if_pos hsame.symm]

/-! ## The jobs -/

section Jobs

variable [ExternalCalls]

/-- The registry after the rollback has scheduled the old scenario, or failed to. -/
def rescheduled (jobs : JobRegistry) (scenario : Scenario) : JobRegistry :=
  match scheduleScenarioJob jobs scenario with
  | .ok jobs => jobs
  | .error _ => jobs

/-- The rollback registers the job that was unscheduled, and no other. -/
structure RestoresJobs (jobs : JobRegistry) (scenario : Scenario) : Prop where
  active : scenario.active = true → ∀ old, cronJob scenario = some old →
    old ∈ jobs ∧ CronAccepted old
  inactive : scenario.active = false → ∀ old, cronJob scenario = some old → CronAccepted old →
    ∃ job ∈ jobs, job.name = scenario.name

/-- Scheduling registers the job of the scenario beside the others, unless it is refused. -/
theorem mem_of_rescheduled {old : SchedulerJob} (hjob : cronJob scenario = some old)
    (job : SchedulerJob) :
    job ∈ rescheduled rest scenario ↔ job ∈ rest ∨
      (job = old ∧ CronAccepted old ∧ ∀ other ∈ rest, other.name ≠ scenario.name) := by
  rw [← schedule_ok_iff hjob, rescheduled]
  cases hscheduled : scheduleScenarioJob rest scenario with
  | ok scheduled =>
      dsimp only
      rw [(schedule_scenario_some hjob hscheduled).2 job, and_iff_left ⟨scheduled, rfl⟩]
  | error error =>
      refine (or_iff_left fun h => ?_).symm
      obtain ⟨-, scheduled, hok⟩ := h
      cases hok

/-- Unscheduling the old scenario and scheduling it again leaves the registry as it was exactly
when it restores the jobs. -/
theorem rescheduled_iff
    (hunscheduled : (if isCronScenario scenario && scenario.active then
      unscheduleJob jobs scenario.name else .ok jobs) = .ok rest) :
    (∀ job, job ∈ rescheduled rest scenario ↔ job ∈ jobs) ↔ RestoresJobs jobs scenario := by
  cases hjob : cronJob scenario with
  | none =>
      -- nothing was unscheduled, and nothing is scheduled
      have hcron : isCronScenario scenario = false := by
        rw [← Bool.not_eq_true, is_cron_scenario_iff, hjob]
        exact nofun
      rw [hcron, Bool.false_and] at hunscheduled
      cases hunscheduled
      have hsame : rescheduled jobs scenario = jobs := by
        rw [rescheduled, schedule_scenario_none hjob]
      rw [hsame]
      refine iff_of_true (fun _ => Iff.rfl) ⟨fun _ old hold => ?_, fun _ old hold => ?_⟩
      · rw [hjob] at hold
        cases hold
      · rw [hjob] at hold
        cases hold
  | some old =>
      have hcron : isCronScenario scenario = true := is_cron_scenario_iff.mpr (by rw [hjob]; rfl)
      have hname := (cron_job_fields hjob).1
      rw [hcron, Bool.true_and] at hunscheduled
      simp only [mem_of_rescheduled hjob]
      cases hactive : scenario.active with
      | true =>
          rw [hactive, if_pos rfl] at hunscheduled
          have hrest (job : SchedulerJob) := @mem_of_unschedule jobs rest job _ hunscheduled
          have hfree : ∀ other ∈ rest, other.name ≠ scenario.name :=
            fun other hother => ((hrest other).mp hother).2
          constructor
          · intro h
            -- a job with the name was unscheduled, and only the own job can be registered again
            obtain ⟨job, hmem, hjobName⟩ := unschedule_ok_iff.mp ⟨rest, hunscheduled⟩
            rcases (h job).mpr hmem with hkept | ⟨rfl, haccepted, -⟩
            · exact absurd hjobName (hfree job hkept)
            · refine ⟨fun _ other hother => ?_, fun h => ?_⟩
              · rw [hjob] at hother
                cases hother
                exact ⟨hmem, haccepted⟩
              · rw [hactive] at h
                cases h
          · intro h job
            obtain ⟨hmem, haccepted⟩ := h.active hactive old hjob
            rw [hrest]
            constructor
            · intro h
              rcases h with ⟨hjobs, -⟩ | ⟨rfl, -⟩
              · exact hjobs
              · exact hmem
            · intro hjobs
              by_cases hjobName : job.name = scenario.name
              · refine .inr ⟨?_, haccepted, hfree⟩
                exact Collection.eq_of_key List.mem_cons_self hjobs hmem
                  (congrArg some (hjobName.trans hname.symm)) rfl
              · exact .inl ⟨hjobs, hjobName⟩
      | false =>
          rw [hactive, if_neg Bool.false_ne_true] at hunscheduled
          cases hunscheduled
          constructor
          · intro h
            refine ⟨fun h => ?_, fun _ other hother haccepted => ?_⟩
            · rw [hactive] at h
              cases h
            · rw [hjob] at hother
              cases hother
              by_contra hnone
              have hfree : ∀ other ∈ jobs, other.name ≠ scenario.name :=
                fun other hother hsame => hnone ⟨other, hother, hsame⟩
              have hregistered := (h old).mp (.inr ⟨rfl, haccepted, hfree⟩)
              exact hfree old hregistered hname
          · intro h job
            refine or_iff_left fun hnew => ?_
            obtain ⟨-, haccepted, hfree⟩ := hnew
            obtain ⟨other, hother, hsame⟩ := h.inactive hactive old hjob haccepted
            exact hfree other hother hsame

end Jobs

/-! ## The update -/

section Updates

variable [ExternalCalls]

/-- The update is saved, the groups are synced and the old job is unscheduled, and then the job of
the updated scenario is refused. -/
structure ScheduleRefused (hub : ScenarioHub) (externalId : String)
    (scenarioDto : UpdateScenarioDto) (scenario updated : Scenario) (stored : ScenarioStore)
    (rest : JobRegistry) : Prop where
  saves : SavesUpdate hub externalId scenarioDto scenario updated stored
  synced : (syncGroupOnUpdate hub.groups scenario.group updated.group).result = .ok ()
  unscheduled : (if isCronScenario scenario && scenario.active then
    unscheduleJob hub.jobs scenario.name else .ok hub.jobs) = .ok rest
  scheduled : (isCronScenario updated && updated.active) = true
  refused : ∃ error, scheduleScenarioJob rest updated = .error error

/-- Scheduling the updated cron of a stored scenario fails. -/
def SchedulingFails (hub : ScenarioHub) (externalId : String) (scenarioDto : UpdateScenarioDto)
    (scenario : Scenario) : Prop :=
  ∃ updated stored rest,
    ScheduleRefused hub externalId scenarioDto scenario updated stored rest

/-- A refused update is rejected after the old scenario was written back and scheduled again. -/
theorem update_of_refused
    (h : ScheduleRefused hub externalId scenarioDto scenario updated stored rest) :
    ∃ restored error, updateScenario hub externalId scenarioDto =
        ⟨restored, (syncGroupOnUpdate hub.groups scenario.group updated.group).groups,
          rescheduled rest scenario, .error error⟩ ∧
      ∀ other, other ∈ restored ↔ other = restoreFields scenario updated ∨
        (other ∈ hub.scenarios ∧ other.externalId ≠ scenario.externalId) := by
  obtain ⟨error, hrefused⟩ := h.refused
  obtain ⟨restored, hrestored, hmem⟩ :=
    restore_scenario_ok (find_by_external_id_iff.mp h.saves.found).1
      (prepare_scenario_ok h.saves.prepared).1 h.saves.mem_iff
  rw [update_of_saves h.saves]
  simp only [h.synced, rescheduleScenario, h.unscheduled, h.scheduled, hrefused, hrestored,
    rescheduled]
  cases scheduleScenarioJob rest scenario with
  | ok jobs => exact ⟨restored, _, rfl, hmem⟩
  | error scheduleError => exact ⟨restored, _, rfl, hmem⟩

/-- When scheduling the updated cron fails, everything is as before exactly when the request gives
the scenario no field that it did not have and no other group, and the registry gets the old job
back. -/
theorem rolled_back_iff (hub : ScenarioHub) (externalId : String)
    (scenarioDto : UpdateScenarioDto) (scenario : Scenario)
    (h : SchedulingFails hub externalId scenarioDto scenario) :
    RolledBack hub (updateScenario hub externalId scenarioDto) ↔
      KeepsAbsentFields scenario scenarioDto ∧ RestoresJobs hub.jobs scenario := by
  obtain ⟨updated, stored, rest, hrefused⟩ := h
  have hscenario := (find_by_external_id_iff.mp hrefused.saves.found).1
  have hprepared := hrefused.saves.prepared
  have hvalid : ValidGroup updated.group := fun _ => is_group_name_of_valid
    (save_over_stored (find_by_external_id_iff.mpr ⟨hscenario, rfl⟩) hrefused.saves.saved).1
  obtain ⟨restored, error, hupdate, hmem⟩ := update_of_refused hrefused
  rw [← keeps_absent_fields_iff hprepared, ← rescheduled_iff hrefused.unscheduled,
    ← restored_iff hscenario (prepare_scenario_ok hprepared).1 hmem,
    ← counts_of_sync_on_update_iff hprepared hvalid hrefused.synced, hupdate]
  constructor
  · intro h
    exact ⟨⟨h.scenarios, h.counts⟩, h.jobs⟩
  · intro h
    obtain ⟨⟨hscenarios, hcounts⟩, hjobs⟩ := h
    exact ⟨⟨error, rfl⟩, hscenarios, hcounts, hjobs⟩

/-- A job is refused when its name is taken. -/
theorem refused_of_taken_name (hscheduled : (isCronScenario updated && updated.active) = true)
    (htaken : ∃ job ∈ rest, job.name = updated.name) :
    ∃ error, scheduleScenarioJob rest updated = .error error := by
  obtain ⟨job, hjob⟩ := Option.isSome_iff_exists.mp (cron_and_active_iff.mp hscheduled)
  cases hresult : scheduleScenarioJob rest updated with
  | error error => exact ⟨error, rfl⟩
  | ok scheduled =>
      obtain ⟨other, hother, hname⟩ := htaken
      have hfree := ((schedule_ok_iff (job_of_eq_some_iff.mp hjob).2).mp ⟨scheduled, hresult⟩).2
      exact absurd hname (hfree other hother)

end Updates

/-! ## A name that is taken -/

section TakenName

attribute [local instance] morningCalls

/-- The scenario of the evening. The job of the deleted scenario of the morning is still
registered. -/
def eveningLight : Scenario :=
  (findByExternalId eveningAdded.scenarios eveningId).get (by decide +kernel)

/-- The request to rename the scenario to the deleted one. -/
def renameDto : UpdateScenarioDto :=
  { name := some "Morning light" }

/-- The scenario is saved under the new name, but its job cannot be scheduled under it. -/
theorem rename_refused : SchedulingFails eveningAdded eveningId renameDto eveningLight := by
  have ⟨hsaved, hunscheduled, htaken, hscheduled, hupdated⟩ :
      (save eveningAdded.scenarios (replacedFields renameDto) eveningLight
        (assignScenario eveningLight renameDto)).isOk = true ∧
      (unscheduleJob eveningAdded.jobs eveningLight.name).isOk = true ∧
      (∃ job ∈ eveningAdded.jobs.docs, job.name ≠ eveningLight.name ∧
        job.name = (assignScenario eveningLight renameDto).name) ∧
      (isCronScenario eveningLight && eveningLight.active) = true ∧
      (isCronScenario (assignScenario eveningLight renameDto) &&
        (assignScenario eveningLight renameDto).active) = true := by
    decide +kernel
  obtain ⟨stored, hstored⟩ := is_ok_iff_exists.mp hsaved
  obtain ⟨rest, hrest⟩ := is_ok_iff_exists.mp hunscheduled
  obtain ⟨job, hjob, hne, hname⟩ := htaken
  refine ⟨assignScenario eveningLight renameDto, stored, rest,
    ⟨(Option.some_get _).symm, by decide +kernel, rfl, hstored⟩, by decide +kernel, ?_,
    hupdated, ?_⟩
  · rw [if_pos hscheduled, hrest]
  · exact refused_of_taken_name hupdated
      ⟨job, (mem_of_unschedule hrest).mpr ⟨hjob, hne⟩, hname⟩

/-- The rename is rolled back completely: the active scenario gets its job back. -/
theorem rolled_back_iff_rename :
    RolledBack eveningAdded (updateScenario eveningAdded eveningId renameDto) := by
  have ⟨hactive, hjobs⟩ : eveningLight.active = true ∧
      ∀ old ∈ cronJob eveningLight, old ∈ eveningAdded.jobs.docs ∧ CronAccepted old := by
    unfold CronAccepted
    decide +kernel
  refine (rolled_back_iff eveningAdded eveningId renameDto eveningLight rename_refused).mpr
    ⟨⟨fun _ => rfl, nofun, fun _ => .inl rfl⟩, fun _ old hold => hjobs old hold,
      fun hinactive => ?_⟩
  rw [hactive] at hinactive
  cases hinactive

/-- The hub with the scenario of the evening, which is not active. -/
def eveningInactive : ScenarioHub :=
  completeGrouped morningsDeleted (.scenarioCall (.addScenario eveningId
    { morningDto with name := "Evening light", group := .value "evenings", active := false }))

/-- The scenario of the evening, which is not active. -/
def inactiveLight : Scenario :=
  (findByExternalId eveningInactive.scenarios eveningId).get (by decide +kernel)

/-- The request to activate the scenario under the name of the deleted one, with a description and
in another group. -/
def activateDto : UpdateScenarioDto :=
  { name := some "Morning light", description := some "A light for late evenings",
    group := some "nights", active := some true }

/-- The scenario is saved, but its job cannot be scheduled. -/
theorem activation_refused :
    SchedulingFails eveningInactive eveningId activateDto inactiveLight := by
  have ⟨hsaved, htaken, hunscheduled, hupdated⟩ :
      (save eveningInactive.scenarios (replacedFields activateDto) inactiveLight
        (assignScenario inactiveLight activateDto)).isOk = true ∧
      (∃ job ∈ eveningInactive.jobs.docs,
        job.name = (assignScenario inactiveLight activateDto).name) ∧
      ¬ (isCronScenario inactiveLight && inactiveLight.active) = true ∧
      (isCronScenario (assignScenario inactiveLight activateDto) &&
        (assignScenario inactiveLight activateDto).active) = true := by
    decide +kernel
  obtain ⟨stored, hstored⟩ := is_ok_iff_exists.mp hsaved
  refine ⟨assignScenario inactiveLight activateDto, stored, eveningInactive.jobs,
    ⟨(Option.some_get _).symm, by decide +kernel, rfl, hstored⟩, by decide +kernel, ?_,
    hupdated, refused_of_taken_name hupdated htaken⟩
  rw [if_neg hunscheduled]

/-- After the rollback the scenario has the description, its old group and the new one count it, and
the job of the inactive scenario is registered. -/
theorem activation_not_rolled_back :
    Reaches CompletesGrouped anyAction lampHub eveningInactive ∧
      SchedulingFails eveningInactive eveningId activateDto inactiveLight ∧
      inactiveLight.active = false ∧
      (∀ job ∈ eveningInactive.jobs.docs, job.externalId ≠ eveningId) ∧
      (∃ job ∈ (updateScenario eveningInactive eveningId activateDto).jobs.docs,
        job.externalId = eveningId) ∧
      ¬ RolledBack eveningInactive (updateScenario eveningInactive eveningId activateDto) := by
  have ⟨hinactive, hbefore, hafter⟩ : inactiveLight.active = false ∧
      (∀ job ∈ eveningInactive.jobs.docs, job.externalId ≠ eveningId) ∧
      ∃ job ∈ (updateScenario eveningInactive eveningId activateDto).jobs.docs,
        job.externalId = eveningId := by
    decide +kernel
  refine ⟨?_, activation_refused, hinactive, hbefore, hafter, fun h => ?_⟩
  · have hadded : Reaches CompletesGrouped anyAction lampHub morningAdded :=
      .of_step trivial (.unchanged lampHub (.scenarioCall (.addScenario morningId morningDto)))
    have hdeleted : Reaches CompletesGrouped anyAction lampHub morningsDeleted :=
      .tail hadded ⟨.scenarioCall (.deleteGroup "mornings" (some true)), trivial, .unchanged _ _⟩
    exact .tail hdeleted ⟨_, trivial, .unchanged _ _⟩
  · obtain ⟨job, hjob, hid⟩ := hafter
    exact hbefore job ((h.jobs job).mp hjob) hid

end TakenName

end MyHomeHub.ScenariosService
