import MyHomeHub.Library.Loops
import MyHomeHub.Scenarios.JobInvariant

/-!
# The loops over the stored scenarios

At startup the scenarios service schedules the active scenarios one after the other, and
once a day the scheduler service adjusts the scenarios that follow the sunrise or the
sunset. Neither loop handles the failure of one scenario by itself: it ends there. What a
step does to one scenario is independent of the other scenarios, so each loop does its work
for all scenarios that would succeed exactly when no failing one stands before them.
-/

namespace MyHomeHub.ScenariosService

open JavaScript Library ScenarioSchema ScenarioGroups ScenariosValidator

variable [ExternalCalls]

/-! ## Startup -/

/-- A step of `scheduleExistingScenarios`: a failed `scheduleScenarioJob` has registered nothing. -/
def scheduleStep (jobs : JobRegistry) (scenario : Scenario) : JobRegistry × Option HubError :=
  match scheduleScenarioJob jobs scenario with
  | .ok jobs => (jobs, none)
  | .error error => (jobs, some error)

/-- The registry that `scheduleExistingScenarios` leaves, and the error it ends with. -/
def startupJobs (scenarios : ScenarioStore) : JobRegistry × Option HubError :=
  runUntilFailure scheduleStep .empty (scenarios.docs.filter (·.active))

variable {scenarios : ScenarioStore} {jobs : JobRegistry} {scenario other : Scenario}
  {job : SchedulerJob} {error : HubError}

theorem run_schedule_step {active : List Scenario} :
    active.foldlM scheduleScenarioJob jobs =
      match runUntilFailure scheduleStep jobs active with
      | (jobs, none) => .ok jobs
      | (_, some error) => .error error := by
  induction active generalizing jobs with
  | nil => rfl
  | cons scenario active ih =>
      rw [List.foldlM_cons, runUntilFailure, scheduleStep]
      cases scheduleScenarioJob jobs scenario with
      | error error => rfl
      | ok scheduled => exact ih

/-- Startup succeeds with the registry of the loop when the loop ends without an error. -/
theorem startup_eq :
    scheduleExistingScenarios scenarios =
      match startupJobs scenarios with
      | (jobs, none) => .ok jobs
      | (_, some error) => .error error :=
  run_schedule_step

/-- A scenario can be scheduled if it has no cron source, or if its expression is accepted and its
name is free. -/
theorem schedule_succeeds_iff :
    Succeeds scheduleStep jobs scenario ↔
      ∀ job, cronJob scenario = some job →
        CronAccepted job ∧ ∀ other ∈ jobs, other.name ≠ scenario.name := by
  have hresult : Succeeds scheduleStep jobs scenario ↔
      ∃ scheduled, scheduleScenarioJob jobs scenario = .ok scheduled := by
    unfold Succeeds scheduleStep
    cases scheduleScenarioJob jobs scenario with
    | ok scheduled => exact iff_of_true rfl ⟨scheduled, rfl⟩
    | error error => exact iff_of_false nofun nofun
  rw [hresult]
  cases hjob : cronJob scenario with
  | none => exact iff_of_true ⟨jobs, schedule_scenario_none hjob⟩ nofun
  | some own =>
      rw [schedule_ok_iff hjob]
      simp only [Option.some.injEq, forall_eq']

/-- A step registers the job of its scenario, and no other job. -/
theorem mem_schedule_step :
    job ∈ (scheduleStep jobs scenario).1 ↔
      job ∈ jobs ∨ (Succeeds scheduleStep jobs scenario ∧ cronJob scenario = some job) := by
  unfold Succeeds scheduleStep
  split
  · rename_i scheduled hscheduled
    rw [and_iff_right rfl]
    cases hjob : cronJob scenario with
    | none =>
        rw [schedule_scenario_none hjob] at hscheduled
        cases hscheduled
        exact (or_iff_left nofun).symm
    | some own =>
        rw [(schedule_scenario_some hjob hscheduled).2 job, Option.some.injEq, @eq_comm _ own]
  · refine (or_iff_left ?_).symm
    intro h
    cases h.1

/-- The job of the scenario is registered, if it is to have one. -/
def IsScheduled (scenario : Scenario) (jobs : JobRegistry) : Prop :=
  ∀ job, cronJob scenario = some job → job ∈ jobs

/-- Scenarios with different names are scheduled independently. -/
theorem schedule_separate :
    Separate scheduleStep (fun _ => True) (fun _ => True) (fun a b => a.name ≠ b.name)
      IsScheduled := by
  have hbeside : ∀ {jobs : JobRegistry} {scenario other : Scenario},
      scenario.name ≠ other.name → ∀ job, job.name = other.name →
        (job ∈ (scheduleStep jobs scenario).1 ↔ job ∈ jobs) := by
    intro jobs scenario other hname job hjob
    rw [mem_schedule_step]
    refine or_iff_left fun hown => hname ?_
    rw [← (cron_job_fields hown.2).1, hjob]
  constructor
  · intro jobs scenario _ _
    trivial
  · intro jobs scenario _ _ hsucceeds job hjob
    exact mem_schedule_step.mpr (.inr ⟨hsucceeds, hjob⟩)
  · intro jobs scenario other _ _ _ hname
    exact forall₂_congr fun job hjob => hbeside hname job (cron_job_fields hjob).1
  · intro jobs scenario other _ _ _ hname
    rw [schedule_succeeds_iff, schedule_succeeds_iff]
    refine forall₂_congr fun job _ => and_congr_right fun _ => ?_
    constructor
    · intro hfree registered hregistered hsame
      exact hfree registered ((hbeside hname registered hsame).mpr hregistered) hsame
    · intro hfree registered hregistered hsame
      exact hfree registered ((hbeside hname registered hsame).mp hregistered) hsame

/-- Startup registers the job of every active scenario that can be scheduled exactly when none of
them has a job behind an active scenario that cannot be scheduled. -/
theorem startup_schedules_iff :
    (∀ scenario ∈ scenarios.docs.filter (·.active), Succeeds scheduleStep .empty scenario →
        IsScheduled scenario (startupJobs scenarios).1) ↔
      (scenarios.docs.filter (·.active)).Pairwise fun failing scenario =>
        ¬ Succeeds scheduleStep .empty failing → Succeeds scheduleStep .empty scenario →
          cronJob scenario = none := by
  have hnames : (scenarios.docs.filter (·.active)).Pairwise fun a b => a.name ≠ b.name :=
    (scenarios.unique.sublist List.filter_sublist).imp fun hdiffer =>
      (apart_of_keys_differ hdiffer).2
  have hempty : ∀ scenario, IsScheduled scenario .empty ↔ cronJob scenario = none := by
    intro scenario
    rw [Option.eq_none_iff_forall_ne_some]
    refine forall₂_congr fun job _ => iff_false_intro ?_
    intro hmem
    cases hmem
  have hcompletes : _ ↔ List.Pairwise _ _ :=
    @Separate.run_completes_iff _ _ _ _ _ _ _ _ .empty _ schedule_separate
      (fun _ _ hname => hname.symm) trivial (fun _ _ => trivial) hnames
  simp only [hempty] at hcompletes
  exact hcompletes

end MyHomeHub.ScenariosService
