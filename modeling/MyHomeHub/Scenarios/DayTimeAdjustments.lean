import MyHomeHub.Scenarios.Loops

/-!
# The day-time adjustments

Once a day `handleDayTimeAdjustments` of the scheduler service moves the cron expressions of
the scenarios that follow the sunrise or the sunset. It updates these scenarios one after
the other, and the first update that fails ends the loop. An update touches the stored
scenario it is about and the job with the name of that scenario, so the updates of
different scenarios do not interfere, and the loop is one of separate steps.
-/

namespace MyHomeHub.ScenariosService

open JavaScript Library ScenarioSchema ScenarioGroups ScenariosValidator

/-- `getScenariosWithAdjustableTime`: a cron source has the time that it is adjusted to. -/
def hasAdjustableTime (scenario : Scenario) : Bool :=
  scenario.trigger.sources.any fun source => source.type = .cron && source.adjustTo.isSome

/-- `adjustScenarioSource` -/
def adjustScenarioSource (timePoints : DayTimePoints) (source : ScenarioTriggerSource) :
    Except HubError ScenarioTriggerSource :=
  match source.type, source.adjustTo, source.cron with
  | .device, _, _ => .ok source
  | .cron, some adjustTo, some cron =>
      .ok { source with cron := some (updateCronTime cron (timePoints adjustTo)) }
  | .cron, _, _ => .error .typeError

/-- The trigger that `handleDayTimeAdjustments` requests for a scenario. -/
def adjustTrigger (timePoints : DayTimePoints) (scenario : Scenario) :
    Except HubError ScenarioTrigger := do
  let sources ← scenario.trigger.sources.mapM (adjustScenarioSource timePoints)
  return { scenario.trigger with sources := sources }

/-- The scenario that the update of `handleDayTimeAdjustments` saves. -/
def adjustedScenario (timePoints : DayTimePoints) (scenario : Scenario) :
    Except HubError Scenario := do
  let trigger ← adjustTrigger timePoints scenario
  prepareScenario timePoints scenario { trigger := some trigger }

/-- The scenario is stored, and the job it is to have is registered. -/
def IsAdjusted (hub : ScenarioHub) (updated : Scenario) : Prop :=
  updated ∈ hub.scenarios ∧ ∀ job, jobOf updated = some job → job ∈ hub.jobs

section

variable [ExternalCalls]

/-- One round of the loop of `handleDayTimeAdjustments`. -/
def adjustScenario (hub : ScenarioHub) (scenario : Scenario) : ScenarioOutcome :=
  match adjustTrigger hub.dayTimePoints scenario with
  | .error error => reject hub error
  | .ok trigger => updateScenario hub scenario.externalId { trigger := some trigger }

/-- The hub after one round, and the error that ends the loop. -/
def adjustStep (hub : ScenarioHub) (scenario : Scenario) : ScenarioHub × Option HubError :=
  let outcome := adjustScenario hub scenario
  (hub.after outcome, match outcome.result with
    | .ok _ => none
    | .error error => some error)

/-- `handleDayTimeAdjustments`: the hub it leaves, and the error it logs. -/
def handleDayTimeAdjustments (hub : ScenarioHub) : ScenarioHub × Option HubError :=
  runUntilFailure adjustStep hub (hub.scenarios.docs.filter hasAdjustableTime)

end

/-! ## Rescheduling one scenario -/

variable {scenarios scenarios' : ScenarioStore} {groups : GroupStore} {jobs : JobRegistry}
  {scenario updated : Scenario} {job : SchedulerJob} {hub : ScenarioHub}
  {trigger : ScenarioTrigger}

/-- The outcome of a call that touches one scenario and the job with its name. -/
structure TouchesOnly (scenarios : ScenarioStore) (jobs : JobRegistry) (scenario : Scenario)
    (outcome : ScenarioOutcome) : Prop where
  others : ∀ other, other.externalId ≠ scenario.externalId →
    (other ∈ outcome.scenarios ↔ other ∈ scenarios)
  jobs : ∀ job : SchedulerJob, job.name ≠ scenario.name → (job ∈ outcome.jobs ↔ job ∈ jobs)
  stored : ∃ trigger, { scenario with trigger := trigger } ∈ outcome.scenarios

/-- The old job is registered if there is one, and the new one can take its place. -/
def CanReschedule [ExternalCalls] (jobs : JobRegistry) (scenario updated : Scenario) : Prop :=
  ((jobOf scenario).isSome → ∃ job ∈ jobs, job.name = scenario.name) ∧
    ∀ job, jobOf updated = some job → CronAccepted job ∧
      ((jobOf scenario).isSome ∨ ∀ other ∈ jobs, other.name ≠ scenario.name)

/-- A scenario that is written back over one with another trigger is the old one. -/
theorem restore_fields_of_trigger :
    restoreFields scenario { scenario with trigger := trigger } = scenario := by
  unfold restoreFields
  dsimp only
  rw [ite_self, ite_self, ite_self]

section

variable [ExternalCalls]

/-- Scheduling a scenario leaves the jobs with other names alone. -/
theorem schedule_scenario_other {scheduled : JobRegistry}
    (h : scheduleScenarioJob jobs scenario = .ok scheduled) (hname : job.name ≠ scenario.name) :
    job ∈ scheduled ↔ job ∈ jobs := by
  cases hjob : cronJob scenario with
  | none =>
      rw [schedule_scenario_none hjob] at h
      cases h
      rfl
  | some own =>
      rw [(schedule_scenario_some hjob h).2 job]
      refine or_iff_left ?_
      rintro rfl
      exact hname (cron_job_fields hjob).1

omit [ExternalCalls] in
/-- An outcome with the updated scenario touches that scenario only. -/
theorem touches_of_replaced {jobs' : JobRegistry} {result : Except HubError Scenario}
    (hmem : ∀ other, other ∈ scenarios' ↔ other = { scenario with trigger := trigger } ∨
      (other ∈ scenarios ∧ other.externalId ≠ scenario.externalId))
    (hjobs : ∀ job : SchedulerJob, job.name ≠ scenario.name → (job ∈ jobs' ↔ job ∈ jobs)) :
    TouchesOnly scenarios jobs scenario ⟨scenarios', groups, jobs', result⟩ := by
  constructor
  · intro other hid
    rw [hmem]
    constructor
    · intro h
      rcases h with rfl | ⟨hother, -⟩
      · exact absurd rfl hid
      · exact hother
    · intro hother
      exact .inr ⟨hother, hid⟩
  · exact hjobs
  · exact ⟨trigger, (hmem _).mpr (.inl rfl)⟩

omit [ExternalCalls] in
/-- Once the old job is unscheduled the name is free if it was that job's or nobody's. -/
theorem old_unscheduled {rest : JobRegistry}
    (h : (if isCronScenario scenario && scenario.active then unscheduleJob jobs scenario.name
      else .ok jobs) = .ok rest) :
    (∀ job : SchedulerJob, job.name ≠ scenario.name → (job ∈ rest ↔ job ∈ jobs)) ∧
      ((jobOf scenario).isSome → ∃ job ∈ jobs, job.name = scenario.name) ∧
      ((∀ other ∈ rest, other.name ≠ scenario.name) ↔
        ((jobOf scenario).isSome ∨ ∀ other ∈ jobs, other.name ≠ scenario.name)) := by
  split at h
  · rename_i hcron
    refine ⟨fun job hname => ?_, fun _ => unschedule_ok_iff.mp ⟨rest, h⟩, ?_⟩
    · rw [mem_of_unschedule h, and_iff_left hname]
    · exact iff_of_true (fun other hother => ((mem_of_unschedule h).mp hother).2)
        (.inl (cron_and_active_iff.mp hcron))
  · rename_i hcron
    cases h
    have hnone := mt cron_and_active_iff.mpr hcron
    exact ⟨fun job _ => Iff.rfl, fun hsome => absurd hsome hnone, (or_iff_right hnone).symm⟩

/-- Rescheduling a scenario with a new trigger touches that scenario only. It succeeds exactly when
the old job can be replaced by the new one, and then the new job is registered. -/
theorem reschedule_trigger (h : scenario ∈ scenarios)
    (hupdated : updated = { scenario with trigger := trigger })
    (hmem : ∀ other, other ∈ scenarios' ↔ other = updated ∨
      (other ∈ scenarios ∧ other.externalId ≠ scenario.externalId)) :
    TouchesOnly scenarios jobs scenario
        (rescheduleScenario scenarios' groups jobs scenario updated) ∧
      ((CanReschedule jobs scenario updated ∧
          (rescheduleScenario scenarios' groups jobs scenario updated).result = .ok updated ∧
          updated ∈ (rescheduleScenario scenarios' groups jobs scenario updated).scenarios ∧
          ∀ job, jobOf updated = some job →
            job ∈ (rescheduleScenario scenarios' groups jobs scenario updated).jobs) ∨
        (¬ CanReschedule jobs scenario updated ∧
          ∃ error, (rescheduleScenario scenarios' groups jobs scenario updated).result =
            .error error)) := by
  have hid : updated.externalId = scenario.externalId := by rw [hupdated]
  have hname : updated.name = scenario.name := by rw [hupdated]
  have hstored : updated ∈ scenarios' := (hmem updated).mpr (.inl rfl)
  obtain ⟨restored, hrestored, hmemRestored⟩ := restore_scenario_ok h hid hmem
  rw [hupdated] at hmem
  rw [hupdated, restore_fields_of_trigger] at hmemRestored
  unfold rescheduleScenario
  dsimp only
  split
  · -- the old job was not registered
    rename_i error hunscheduled
    refine ⟨touches_of_replaced hmem fun _ _ => Iff.rfl, .inr ⟨fun hcan => ?_, _, rfl⟩⟩
    split at hunscheduled
    · rename_i hcron
      obtain ⟨rest, hok⟩ := unschedule_ok_iff.mpr (hcan.1 (cron_and_active_iff.mp hcron))
      rw [hunscheduled] at hok
      cases hok
    · cases hunscheduled
  · rename_i rest hunscheduled
    obtain ⟨hothers, hold, hfree⟩ := old_unscheduled hunscheduled
    split
    · rename_i hcron
      obtain ⟨own, hown⟩ := Option.isSome_iff_exists.mp (cron_and_active_iff.mp hcron)
      have hjob := (job_of_eq_some_iff.mp hown).2
      split
      · rename_i scheduled hscheduled
        obtain ⟨haccepted, hafter⟩ := schedule_scenario_some hjob hscheduled
        have hnameFree := (schedule_ok_iff hjob).mp ⟨scheduled, hscheduled⟩
        refine ⟨touches_of_replaced hmem fun job hother => ?_, .inl ⟨⟨hold, ?_⟩, rfl, hstored, ?_⟩⟩
        · rw [schedule_scenario_other hscheduled (hname ▸ hother), hothers job hother]
        · intro job hupdatedJob
          cases hown.symm.trans hupdatedJob
          exact ⟨haccepted, hfree.mp (hname ▸ hnameFree.2)⟩
        · intro job hupdatedJob
          cases hown.symm.trans hupdatedJob
          exact (hafter _).mpr (.inr rfl)
      · -- the new job is refused, and the old scenario is written back
        rename_i error hfailed
        have hcannot : ¬ CanReschedule jobs scenario updated := by
          intro hcan
          obtain ⟨haccepted, hnameFree⟩ := hcan.2 own hown
          obtain ⟨scheduled, hok⟩ :=
            schedule_scenario_free hjob haccepted (hname ▸ hfree.mpr hnameFree)
          rw [hfailed] at hok
          cases hok
        rw [hrestored]
        dsimp only
        have hback : ∀ other, other ∈ restored ↔
            other = { scenario with trigger := scenario.trigger } ∨
              (other ∈ scenarios ∧ other.externalId ≠ scenario.externalId) := hmemRestored
        split
        · rename_i scheduled hscheduled
          refine ⟨touches_of_replaced hback fun job hother => ?_, .inr ⟨hcannot, _, rfl⟩⟩
          rw [schedule_scenario_other hscheduled hother, hothers job hother]
        · exact ⟨touches_of_replaced hback hothers, .inr ⟨hcannot, _, rfl⟩⟩
    · rename_i hcron
      have hnone : ∀ job, jobOf updated ≠ some job := by
        intro job hjob
        rw [cron_and_active_iff, hjob] at hcron
        exact hcron rfl
      exact ⟨touches_of_replaced hmem hothers,
        .inl ⟨⟨hold, fun job hjob => absurd hjob (hnone job)⟩, rfl, hstored,
          fun job hjob => absurd hjob (hnone job)⟩⟩

/-! ## Updating the trigger of one scenario -/

omit [ExternalCalls] in
/-- A request with a trigger changes nothing else. -/
theorem prepare_trigger {timePoints : DayTimePoints}
    (h : prepareScenario timePoints scenario { trigger := some trigger } = .ok updated) :
    ∃ prepared, updated = { scenario with trigger := prepared } := by
  unfold prepareScenario at h
  dsimp only [Option.isSome] at h
  rw [if_pos rfl] at h
  obtain ⟨sources, -, hprepared⟩ := bind_ok_iff.mp h
  cases hprepared
  exact ⟨_, rfl⟩

/-- The update of the trigger is saved, and the job can follow. -/
structure AcceptsTrigger (hub : ScenarioHub) (trigger : ScenarioTrigger)
    (stored updated : Scenario) : Prop where
  validated : validateScenario hub.configs hub.devices (some trigger) none = .ok ()
  prepared : prepareScenario hub.dayTimePoints stored { trigger := some trigger } = .ok updated
  valid : invalidPaths updated = []
  rescheduled : CanReschedule hub.jobs stored updated

/-- An update of the trigger that is saved leaves everything to the rescheduling. -/
theorem update_trigger_saved (hsaves : SavesUpdate hub scenario.externalId
      { trigger := some trigger } scenario updated scenarios') :
    updateScenario hub scenario.externalId { trigger := some trigger } =
      rescheduleScenario scenarios' hub.groups hub.jobs scenario updated := by
  obtain ⟨prepared, hprepared⟩ := prepare_trigger hsaves.prepared
  have hgroup : updated.group = scenario.group := by rw [hprepared]
  have hafter := update_of_saves hsaves
  rw [hgroup, syncGroupOnUpdate, if_pos rfl] at hafter
  exact hafter

/-- What the schema accepts is saved: the name stays the same. -/
theorem AcceptsTrigger.saves (h : AcceptsTrigger hub trigger scenario updated)
    (hfound : findByExternalId hub.scenarios scenario.externalId = some scenario) :
    ∃ scenarios', SavesUpdate hub scenario.externalId { trigger := some trigger } scenario updated
      scenarios' := by
  obtain ⟨prepared, hprepared⟩ := prepare_trigger h.prepared
  have hname : updated.name = scenario.name := by rw [hprepared]
  obtain ⟨scenarios', hsaved⟩ := @save_unrenamed_ok _ _ _ _ _
    (replacedFields { trigger := some trigger }) hfound h.valid hname
  exact ⟨scenarios', hfound, h.validated, h.prepared, hsaved⟩

/-- Updating the trigger of a stored scenario touches that scenario only, and it is adjusted if the
update succeeds. -/
theorem update_trigger (h : scenario ∈ hub.scenarios) :
    TouchesOnly hub.scenarios hub.jobs scenario
        (updateScenario hub scenario.externalId { trigger := some trigger }) ∧
      (∀ updated, (updateScenario hub scenario.externalId
          { trigger := some trigger }).result = .ok updated ↔
        AcceptsTrigger hub trigger scenario updated) ∧
      ∀ updated, (updateScenario hub scenario.externalId
          { trigger := some trigger }).result = .ok updated →
        IsAdjusted (hub.after
          (updateScenario hub scenario.externalId { trigger := some trigger })) updated := by
  have hfound : findByExternalId hub.scenarios scenario.externalId = some scenario :=
    find_by_external_id_iff.mpr ⟨h, rfl⟩
  by_cases hsaves : ∃ stored updated scenarios',
      SavesUpdate hub scenario.externalId { trigger := some trigger } stored updated scenarios'
  · obtain ⟨stored, updated, scenarios', hsaves⟩ := hsaves
    obtain rfl : stored = scenario := Option.some.inj (hsaves.found.symm.trans hfound)
    have hvalid := (save_over_stored hfound hsaves.saved).1
    obtain ⟨prepared, hprepared⟩ := prepare_trigger hsaves.prepared
    obtain ⟨htouches, hcan⟩ :=
      @reschedule_trigger _ _ hub.groups hub.jobs _ _ _ _ h hprepared hsaves.mem_iff
    rw [update_trigger_saved hsaves]
    rcases hcan with ⟨hcan, hresult, hstored, hjobs⟩ | ⟨hcannot, error, hresult⟩
    · rw [hresult]
      refine ⟨htouches, fun other => ⟨fun hother => ?_, fun hother => ?_⟩, fun other hother => ?_⟩
      · cases hother
        exact ⟨hsaves.validated, hsaves.prepared, hvalid, hcan⟩
      · exact hsaves.prepared.symm.trans hother.prepared
      · cases hother
        exact ⟨hstored, hjobs⟩
    · rw [hresult]
      refine ⟨htouches, fun other => iff_of_false (fun h => ?_) fun hother => hcannot ?_,
        fun other h => ?_⟩
      · cases h
      · have hsame : updated = other := Except.ok.inj (hsaves.prepared.symm.trans hother.prepared)
        rw [hsame]
        exact hother.rescheduled
      · cases h
  · obtain ⟨error, hrejected⟩ := update_of_not_saves fun stored updated scenarios' hsave =>
      hsaves ⟨stored, updated, scenarios', hsave⟩
    rw [hrejected]
    refine ⟨⟨fun _ _ => Iff.rfl, fun _ _ => Iff.rfl, scenario.trigger, h⟩,
      fun updated => iff_of_false (fun h => ?_) fun haccepts => hsaves ?_, fun updated h => ?_⟩
    · cases h
    · obtain ⟨scenarios', hsave⟩ := haccepts.saves hfound
      exact ⟨scenario, updated, scenarios', hsave⟩
    · cases h

/-! ## The rounds of the loop -/

theorem adjust_succeeds_iff :
    Succeeds adjustStep hub scenario ↔
      ∃ updated, (adjustScenario hub scenario).result = .ok updated := by
  unfold Succeeds adjustStep
  dsimp only
  cases (adjustScenario hub scenario).result with
  | ok updated => exact iff_of_true rfl ⟨updated, rfl⟩
  | error error =>
      refine iff_of_false (fun h => ?_) fun h => ?_
      · cases h
      · obtain ⟨updated, h⟩ := h
        cases h

/-- A round touches the scenario it is about only, however that scenario was adjusted before. -/
theorem adjust_scenario {old : ScenarioTrigger}
    (h : { scenario with trigger := old } ∈ hub.scenarios) :
    TouchesOnly hub.scenarios hub.jobs scenario (adjustScenario hub scenario) ∧
      (∀ updated, (adjustScenario hub scenario).result = .ok updated ↔
        ∃ trigger, adjustTrigger hub.dayTimePoints scenario = .ok trigger ∧
          AcceptsTrigger hub trigger { scenario with trigger := old } updated) ∧
      ∀ updated, (adjustScenario hub scenario).result = .ok updated →
        IsAdjusted (hub.after (adjustScenario hub scenario)) updated := by
  unfold adjustScenario
  split
  · rename_i error herror
    refine ⟨⟨fun _ _ => Iff.rfl, fun _ _ => Iff.rfl, old, h⟩,
      fun updated => iff_of_false (fun h => ?_) fun hadjusts => ?_, fun updated h => ?_⟩
    · cases h
    · obtain ⟨trigger, htrigger, -⟩ := hadjusts
      rw [herror] at htrigger
      cases htrigger
    · cases h
  · rename_i trigger htrigger
    obtain ⟨htouches, haccepts, hadjusted⟩ := @update_trigger _ _ trigger _ h
    refine ⟨⟨htouches.others, htouches.jobs, htouches.stored⟩, fun updated => ?_, hadjusted⟩
    rw [haccepts updated, htrigger]
    constructor
    · intro hupdate
      exact ⟨trigger, rfl, hupdate⟩
    · intro hupdate
      obtain ⟨requested, hrequested, hupdate⟩ := hupdate
      cases hrequested
      exact hupdate

/-- The scenario that a round saves does not depend on what the earlier rounds saved. -/
theorem adjusted_of_ok {old : ScenarioTrigger}
    (h : { scenario with trigger := old } ∈ hub.scenarios)
    (hok : (adjustScenario hub scenario).result = .ok updated) :
    adjustedScenario hub.dayTimePoints scenario = .ok updated := by
  obtain ⟨trigger, htrigger, haccepts⟩ := ((adjust_scenario h).2.1 updated).mp hok
  rw [adjustedScenario, htrigger]
  exact haccepts.prepared

omit [ExternalCalls] in
theorem adjusted_fields {timePoints : DayTimePoints}
    (h : adjustedScenario timePoints scenario = .ok updated) :
    updated.externalId = scenario.externalId ∧ updated.name = scenario.name := by
  obtain ⟨trigger, -, hprepared⟩ := bind_ok_iff.mp h
  obtain ⟨prepared, rfl⟩ := prepare_trigger hprepared
  exact ⟨rfl, rfl⟩

/-- Whether a scenario can be rescheduled depends on the jobs with its name. -/
theorem can_reschedule_congr {jobs' : JobRegistry}
    (h : ∀ job : SchedulerJob, job.name = scenario.name → (job ∈ jobs' ↔ job ∈ jobs)) :
    CanReschedule jobs' scenario updated ↔ CanReschedule jobs scenario updated := by
  have hexists : (∃ job ∈ jobs', job.name = scenario.name) ↔
      ∃ job ∈ jobs, job.name = scenario.name :=
    exists_congr fun job => and_congr_left (h job)
  have hfree : (∀ other ∈ jobs', other.name ≠ scenario.name) ↔
      ∀ other ∈ jobs, other.name ≠ scenario.name := by
    have hnot := not_congr hexists
    simp only [not_exists, not_and] at hnot
    exact hnot
  unfold CanReschedule
  rw [hexists, hfree]

/-- What the rounds leave as it is: of the scenarios they change nothing but the triggers. -/
structure DuringAdjustments (before hub : ScenarioHub) : Prop where
  devices : hub.devices = before.devices
  configs : hub.configs = before.configs
  dayTimePoints : hub.dayTimePoints = before.dayTimePoints
  scenarios : ∀ scenario ∈ before.scenarios,
    ∃ trigger, { scenario with trigger := trigger } ∈ hub.scenarios

/-- Rounds for different scenarios do not interfere. -/
theorem adjust_separate (before : ScenarioHub) :
    Separate adjustStep (DuringAdjustments before) (· ∈ before.scenarios)
      (fun a b => a.externalId ≠ b.externalId ∧ a.name ≠ b.name)
      (fun scenario hub => ∃ updated,
        adjustedScenario before.dayTimePoints scenario = .ok updated ∧ IsAdjusted hub updated) := by
  constructor
  · intro hub scenario hduring hmem
    obtain ⟨old, hold⟩ := hduring.scenarios scenario hmem
    obtain ⟨htouches, -, -⟩ := adjust_scenario hold
    refine ⟨hduring.devices, hduring.configs, hduring.dayTimePoints, fun other hother => ?_⟩
    by_cases hid : other.externalId = scenario.externalId
    · rw [eq_of_external_id hmem hother hid]
      exact htouches.stored
    · obtain ⟨trigger, hstored⟩ := hduring.scenarios other hother
      exact ⟨trigger, (htouches.others { other with trigger := trigger } hid).mpr hstored⟩
  · intro hub scenario hduring hmem hsucceeds
    obtain ⟨old, hold⟩ := hduring.scenarios scenario hmem
    obtain ⟨updated, hok⟩ := adjust_succeeds_iff.mp hsucceeds
    refine ⟨updated, ?_, (adjust_scenario hold).2.2 updated hok⟩
    rw [← hduring.dayTimePoints]
    exact adjusted_of_ok hold hok
  · intro hub scenario other hduring hmem _ hapart
    obtain ⟨old, hold⟩ := hduring.scenarios scenario hmem
    obtain ⟨htouches, -, -⟩ := adjust_scenario hold
    refine exists_congr fun updated => and_congr_right fun hadjusted => ?_
    obtain ⟨hid, hname⟩ := adjusted_fields hadjusted
    refine and_congr (htouches.others updated ?_) (forall₂_congr fun job hjob =>
      htouches.jobs job ?_)
    · rw [hid]
      exact hapart.1.symm
    · rw [(job_of_fields hjob).1, hname]
      exact hapart.2.symm
  · intro hub scenario other hduring hmem hother hapart
    obtain ⟨old, hold⟩ := hduring.scenarios scenario hmem
    obtain ⟨htouches, -, -⟩ := adjust_scenario hold
    obtain ⟨trigger, hstored⟩ := hduring.scenarios other hother
    have hstill : { other with trigger := trigger } ∈ (adjustStep hub scenario).1.scenarios :=
      (htouches.others { other with trigger := trigger } hapart.1.symm).mpr hstored
    rw [adjust_succeeds_iff, adjust_succeeds_iff]
    refine exists_congr fun updated => ?_
    rw [(adjust_scenario hstill).2.1 updated, (adjust_scenario hstored).2.1 updated]
    refine exists_congr fun requested => and_congr_right fun _ => ?_
    have hjobs : ∀ job : SchedulerJob, job.name = other.name →
        (job ∈ (adjustStep hub scenario).1.jobs ↔ job ∈ hub.jobs) :=
      fun job hname => htouches.jobs job (hname ▸ hapart.2.symm)
    have hcan : CanReschedule (adjustStep hub scenario).1.jobs { other with trigger := trigger }
          updated ↔ CanReschedule hub.jobs { other with trigger := trigger } updated :=
      can_reschedule_congr hjobs
    constructor
    · intro haccepts
      exact ⟨haccepts.validated, haccepts.prepared, haccepts.valid, hcan.mp haccepts.rescheduled⟩
    · intro haccepts
      exact ⟨haccepts.validated, haccepts.prepared, haccepts.valid, hcan.mpr haccepts.rescheduled⟩

/-! ## The whole loop -/

/-- The loop adjusts every scenario whose own update would succeed exactly when no scenario whose
own update would fail stands before one that is still to be adjusted. -/
theorem handle_adjusts_iff :
    (∀ scenario ∈ hub.scenarios.docs.filter hasAdjustableTime, ∀ updated,
        (adjustScenario hub scenario).result = .ok updated →
          IsAdjusted (handleDayTimeAdjustments hub).1 updated) ↔
      (hub.scenarios.docs.filter hasAdjustableTime).Pairwise fun failing scenario =>
        ¬ Succeeds adjustStep hub failing → ∀ updated,
          (adjustScenario hub scenario).result = .ok updated → IsAdjusted hub updated := by
  have hstart : DuringAdjustments hub hub :=
    ⟨rfl, rfl, rfl, fun scenario hmem => ⟨scenario.trigger, hmem⟩⟩
  have hapart : (hub.scenarios.docs.filter hasAdjustableTime).Pairwise fun a b =>
      a.externalId ≠ b.externalId ∧ a.name ≠ b.name :=
    (hub.scenarios.unique.sublist List.filter_sublist).imp apart_of_keys_differ
  have hstored : ∀ scenario ∈ hub.scenarios.docs.filter hasAdjustableTime,
      scenario ∈ hub.scenarios := fun scenario hmem => (List.mem_filter.mp hmem).1
  -- the own update of a scenario determines what it is to be adjusted to
  have hresult : ∀ scenario ∈ hub.scenarios, ∀ after : ScenarioHub,
      (Succeeds adjustStep hub scenario → ∃ updated,
        adjustedScenario hub.dayTimePoints scenario = .ok updated ∧ IsAdjusted after updated) ↔
        ∀ updated, (adjustScenario hub scenario).result = .ok updated →
          IsAdjusted after updated := by
    intro scenario hmem after
    have hown : ∀ updated, (adjustScenario hub scenario).result = .ok updated →
        adjustedScenario hub.dayTimePoints scenario = .ok updated :=
      fun updated hok => @adjusted_of_ok _ _ _ _ scenario.trigger hmem hok
    rw [adjust_succeeds_iff]
    constructor
    · intro hall updated hok
      obtain ⟨adjusted, hadjusted, hafter⟩ := hall ⟨updated, hok⟩
      rw [hown updated hok] at hadjusted
      cases hadjusted
      exact hafter
    · intro hall hsome
      obtain ⟨updated, hok⟩ := hsome
      exact ⟨updated, hown updated hok, hall updated hok⟩
  have hcompletes := (adjust_separate hub).run_completes_iff
    (fun _ _ hab => ⟨hab.1.symm, hab.2.symm⟩) hstart hstored hapart
  refine (forall₂_congr fun scenario hmem =>
    (hresult scenario (hstored scenario hmem) _).symm).trans (hcompletes.trans ?_)
  refine List.Pairwise.iff_of_mem fun {failing scenario} _ hmem => forall_congr' fun _ => ?_
  exact hresult scenario (hstored scenario hmem) hub

/-- Each of the two loops does its work for every scenario whose own step would succeed exactly when
no scenario whose own step fails stands before one that still needs its step. -/
theorem loops_isolate_failures_iff (hub : ScenarioHub) :
    ((∀ scenario ∈ hub.scenarios.docs.filter hasAdjustableTime, ∀ updated,
        (adjustScenario hub scenario).result = .ok updated →
          IsAdjusted (handleDayTimeAdjustments hub).1 updated) ↔
      (hub.scenarios.docs.filter hasAdjustableTime).Pairwise fun failing scenario =>
        ¬ Succeeds adjustStep hub failing → ∀ updated,
          (adjustScenario hub scenario).result = .ok updated → IsAdjusted hub updated) ∧
    ((∀ scenario ∈ hub.scenarios.docs.filter (·.active), Succeeds scheduleStep .empty scenario →
        IsScheduled scenario (startupJobs hub.scenarios).1) ↔
      (hub.scenarios.docs.filter (·.active)).Pairwise fun failing scenario =>
        ¬ Succeeds scheduleStep .empty failing → Succeeds scheduleStep .empty scenario →
          cronJob scenario = none) :=
  ⟨handle_adjusts_iff, startup_schedules_iff⟩

end

/-! ## A deleted lamp -/

/-- Calls that know the times of two mornings. -/
@[reducible] def sunriseCalls : ExternalCalls :=
  { ExternalCalls.unused with
    isValidCron := fun cron => cron = "0 7 * * *" ∨ cron = "0 6 * * *"
    cronJobAccepts := fun cron => cron = "0 7 * * *" ∨ cron = "0 6 * * *" }

/-- A scenario with a device that is gone and a minute that does not exist. -/
def lostLampScenario : Scenario where
  externalId := "3c9e1a70-2d4b-4f86-8a15-7b60c2d9e4f1"
  name := "Lamp or sunrise"
  trigger := ⟨[
    { type := .cron, cron := some "61 7 * * *", adjustTo := some .sunrise },
    { type := .device
      device := {
        externalId := some lampId
        controls := some (.ofAssignments [⟨"on", .bool true⟩]) } }], "1 OR 2"⟩
  actions := []

/-- A scenario that follows the sunrise. -/
def sunriseScenario : Scenario where
  externalId := morningId
  name := "Sunrise"
  trigger := ⟨[{ type := .cron, cron := some "0 7 * * *", adjustTo := some .sunrise }], "1"⟩
  actions := []

/-- The job of the scenario before and after the adjustment. -/
def sunriseJob (cron : String) : SchedulerJob :=
  ⟨"Sunrise", some cron, morningId⟩

/-- A hub where the lamp was deleted. -/
def lostLampHub : ScenarioHub where
  devices := .empty
  configs := []
  dayTimePoints _ := (6, 0)
  scenarios := ⟨[lostLampScenario, sunriseScenario], by decide⟩
  groups := .empty
  jobs := ⟨[sunriseJob "0 7 * * *"], List.pairwise_singleton _ _⟩

/-- The scenario behind the failing one is neither adjusted nor scheduled. -/
theorem scenario_behind_failure_skipped :
    ¬ (∀ scenario ∈ lostLampHub.scenarios.docs.filter hasAdjustableTime, ∀ updated,
        (@adjustScenario sunriseCalls lostLampHub scenario).result = .ok updated →
          IsAdjusted (@handleDayTimeAdjustments sunriseCalls lostLampHub).1 updated) ∧
      ¬ ∀ scenario ∈ lostLampHub.scenarios.docs.filter (·.active),
        Succeeds (@scheduleStep sunriseCalls) .empty scenario →
          IsScheduled scenario (@startupJobs sunriseCalls lostLampHub.scenarios).1 := by
  have hactive : sunriseScenario ∈ lostLampHub.scenarios.docs.filter (·.active) :=
    List.mem_cons_of_mem _ List.mem_cons_self
  have hadjustable : sunriseScenario ∈ lostLampHub.scenarios.docs.filter hasAdjustableTime :=
    List.mem_cons_of_mem _ List.mem_cons_self
  constructor
  · intro hall
    have hjob : (@adjustScenario sunriseCalls lostLampHub sunriseScenario).result.toOption.bind
        jobOf = some (sunriseJob "0 6 * * *") := by decide +kernel
    have hmissing : sunriseJob "0 6 * * *" ∉
        (@handleDayTimeAdjustments sunriseCalls lostLampHub).1.jobs.docs := by decide +kernel
    cases hresult : (@adjustScenario sunriseCalls lostLampHub sunriseScenario).result with
    | error error =>
        rw [hresult] at hjob
        cases hjob
    | ok updated =>
        rw [hresult] at hjob
        exact hmissing ((hall sunriseScenario hadjustable updated hresult).2 _ hjob)
  · intro hall
    have hsucceeds : Succeeds (@scheduleStep sunriseCalls) .empty sunriseScenario :=
      Option.isNone_iff_eq_none.mp (by decide +kernel)
    have hmissing : sunriseJob "0 7 * * *" ∉
        (@startupJobs sunriseCalls lostLampHub.scenarios).1.docs := by decide +kernel
    exact hmissing (hall sunriseScenario hactive hsucceeds _ rfl)

end MyHomeHub.ScenariosService
