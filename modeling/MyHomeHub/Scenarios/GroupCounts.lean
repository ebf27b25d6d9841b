import MyHomeHub.Library.Counting
import MyHomeHub.Scenarios.JobInvariant

/-!
# The counts of the scenario groups

A group counts the scenarios that name it, and the count is changed by one whenever a
scenario is added to it or leaves it. `updateScenario` moves a scenario to another group
before it schedules the job. When the job is refused it writes the old scenario back, with
its old group, but leaves the counts as they are. All other paths change a count with the
scenarios.
-/

namespace MyHomeHub.ScenariosService

open JavaScript Library ScenarioSchema ScenarioGroups ScenariosValidator

/-! ## Counts -/

/-- A scenario names a group. -/
def inGroup (name : String) (scenario : Scenario) : Bool :=
  scenario.group = .value name

/-- Every group counts the stored scenarios of its name, and every name that a stored scenario uses
is the name of a group. -/
structure GroupsInStep (scenarios : ScenarioStore) (groups : GroupStore) : Prop where
  counts : ∀ group ∈ groups, group.scenariosCount = scenarios.count (inGroup group.name)
  used : ∀ scenario ∈ scenarios, ∀ name, scenario.group = .value name →
    ∃ group ∈ groups, group.name = name

/-- The count of the group with a name, which is zero when there is no such group. -/
def groupCount (groups : GroupStore) (name : String) : Nat :=
  ((findGroup groups name).map (·.scenariosCount)).getD 0

variable {scenarios scenarios' : ScenarioStore} {groups groups' : GroupStore}
  {scenario updated : Scenario} {group : ScenarioGroup} {name : String}

theorem group_count_of_mem (h : group ∈ groups) (hname : group.name = name) :
    groupCount groups name = group.scenariosCount := by
  rw [groupCount, find_group_iff.mpr ⟨h, hname⟩]
  rfl

theorem group_count_of_absent (h : ∀ group ∈ groups, group.name ≠ name) :
    groupCount groups name = 0 := by
  unfold groupCount
  cases hfind : findGroup groups name with
  | none => rfl
  | some group =>
      obtain ⟨hgroup, hname⟩ := find_group_iff.mp hfind
      exact absurd hname (h group hgroup)

/-- What is found depends on the group with the name only. -/
theorem find_group_congr
    (h : ∀ group, group.name = name → (group ∈ groups' ↔ group ∈ groups)) :
    findGroup groups' name = findGroup groups name := by
  refine Option.ext fun group => ?_
  rw [find_group_iff, find_group_iff]
  exact and_congr_left (h group)

/-- The count depends on the group with the name only. -/
theorem group_count_congr
    (h : ∀ group, group.name = name → (group ∈ groups' ↔ group ∈ groups)) :
    groupCount groups' name = groupCount groups name := by
  rw [groupCount, groupCount, find_group_congr h]

theorem exists_group_of_count_pos (h : 0 < groupCount groups name) :
    ∃ group ∈ groups, group.name = name ∧ 0 < group.scenariosCount := by
  by_contra hnone
  unfold groupCount at h
  cases hfind : findGroup groups name with
  | none =>
      rw [hfind] at h
      exact absurd h (Nat.lt_irrefl 0)
  | some group =>
      obtain ⟨hgroup, hname⟩ := find_group_iff.mp hfind
      rw [hfind] at h
      exact hnone ⟨group, hgroup, hname, h⟩

/-- The groups are in step when the count of every name is that of the scenarios, whether there is a
group of that name or not. -/
theorem groups_in_step_iff : GroupsInStep scenarios groups ↔
    ∀ name, groupCount groups name = scenarios.count (inGroup name) := by
  refine ⟨fun h name => ?_,
    fun h => ⟨fun group hgroup => ?_, fun scenario hscenario name hname => ?_⟩⟩
  · by_cases hgroup : ∃ group ∈ groups, group.name = name
    · obtain ⟨group, hgroup, rfl⟩ := hgroup
      rw [group_count_of_mem hgroup rfl, h.counts group hgroup]
    · -- without a group nothing is counted, and a scenario of that name would need one
      rw [group_count_of_absent fun group hmem hname => hgroup ⟨group, hmem, hname⟩]
      symm
      by_contra hne
      obtain ⟨scenario, hscenario, hin⟩ := Collection.count_pos_iff.mp (Nat.pos_of_ne_zero hne)
      exact hgroup (h.used scenario hscenario name (of_decide_eq_true hin))
  · rw [← h group.name, group_count_of_mem hgroup rfl]
  · have hpos : 0 < groupCount groups name := by
      rw [h name]
      exact Collection.count_pos_iff.mpr ⟨scenario, hscenario, decide_eq_true hname⟩
    obtain ⟨group, hgroup, hsame, -⟩ := exists_group_of_count_pos hpos
    exact ⟨group, hgroup, hsame⟩

/-! ## What the groups service does to the counts -/

/-- `upsertGroup` changes the count of its group by the increment, and no other count. -/
theorem group_count_of_upsert {incrementBy : Int}
    (h : upsertGroup groups name incrementBy = .ok groups') (other : String) :
    (groupCount groups' other : Int) =
      groupCount groups other + if other = name then incrementBy else 0 := by
  have hrules := (upsert_group_ok_iff.mp ⟨groups', h⟩).2.2
  unfold upsertGroup at h
  cases hfind : findGroup groups name with
  | none =>
      rw [countAfter, hfind] at hrules
      rw [hfind] at h
      dsimp only at h hrules
      have habsent (group : ScenarioGroup) (hgroup : group ∈ groups) : group.name ≠ name := by
        intro hname
        rw [find_group_iff.mpr ⟨hgroup, hname⟩] at hfind
        cases hfind
      split at h
      · split at h
        · rename_i inserted hinsert
          cases h
          have hmem (group : ScenarioGroup) := @Collection.mem_of_insert _ _ _ _ _ _ group _ hinsert
          -- the new group starts with the increment, which is not negative
          by_cases hsame : other = name
          · rw [if_pos hsame, hsame, group_count_of_absent habsent,
              group_count_of_mem ((hmem _).mpr (.inr rfl)) rfl, Int.toNat_of_nonneg hrules]
            omega
          · rw [if_neg hsame, @group_count_congr groups, add_zero]
            intro group hname
            rw [hmem, or_iff_left]
            rintro rfl
            exact hsame hname.symm
        · cases h
      · cases h
  | some existingGroup =>
      rw [countAfter, hfind] at hrules
      rw [hfind] at h
      dsimp only at h hrules
      obtain ⟨hexisting, hexistingName⟩ := find_group_iff.mp hfind
      split at h
      · split at h
        · rename_i updated hupdate
          cases h
          have hmem := Collection.mem_of_update_stored List.mem_cons_self hexisting
            (congrArg some hexistingName) hupdate
          by_cases hsame : other = name
          · rw [if_pos hsame, hsame, group_count_of_mem hexisting hexistingName,
              group_count_of_mem ((hmem _).mpr (.inl rfl)) hexistingName,
              Int.toNat_of_nonneg hrules]
          · rw [if_neg hsame, @group_count_congr groups, add_zero]
            intro group hname
            rw [hmem]
            refine ⟨fun hgroup => ?_, fun hgroup => .inr ⟨hgroup, fun hkey => hsame ?_⟩⟩
            · rcases hgroup with rfl | ⟨hgroup, -⟩
              · exact absurd (hname.symm.trans hexistingName) hsame
              · exact hgroup
            · exact hname.symm.trans (Option.some.inj hkey)
        · cases h
        · cases h
      · cases h

/-- The name of a group that a scenario can have. -/
def ValidGroup (groupName : Optional String) : Prop :=
  ∀ name, groupName = .value name → isGroupName name = true

/-- What a change of the group of a scenario adds to the count of a name. -/
def share (groupName : Optional String) (name : String) : Int :=
  if groupName = .value name then 1 else 0

theorem in_group_share : ((if inGroup name scenario then 1 else 0 : Nat) : Int) =
    share scenario.group name := by
  unfold inGroup share
  by_cases hgroup : scenario.group = .value name
  · rw [if_pos (decide_eq_true hgroup), if_pos hgroup]
    rfl
  · rw [if_neg (by rw [decide_eq_true_eq]; exact hgroup), if_neg hgroup]
    rfl

/-- What a scenario of a group adds to the count of a name. An empty name stands for no group. -/
def countedIn (groupName : Optional String) (name : String) : Int :=
  if groupName = .value name ∧ name ≠ "" then 1 else 0

/-- No scenario is saved with an empty name of a group. -/
theorem counted_in_of_valid {groupName : Optional String} (hvalid : ValidGroup groupName)
    (name : String) : countedIn groupName name = share groupName name := by
  unfold countedIn share
  by_cases hgroup : groupName = .value name
  · have hne : name ≠ "" := by
      rintro rfl
      exact absurd (hvalid "" hgroup) (by decide)
    rw [if_pos ⟨hgroup, hne⟩, if_pos hgroup]
  · rw [if_neg fun h => hgroup h.1, if_neg hgroup]

/-- `syncGroup` changes the count of the name it is given, unless the name is empty. -/
theorem group_count_of_synced {groupName : Optional String} {incrementBy : Int}
    (h : (syncGroup groups groupName incrementBy).result = .ok ()) (other : String) :
    (groupCount (syncGroup groups groupName incrementBy).groups other : Int) =
      groupCount groups other + incrementBy * countedIn groupName other := by
  unfold syncGroup at h ⊢
  unfold countedIn
  cases groupName with
  | undefined => simp
  | null => simp
  | value name =>
      by_cases hempty : name = ""
      · subst hempty
        have hnone : ¬ (Optional.value "" = .value other ∧ other ≠ "") := by
          intro h
          exact h.2 (Optional.value.inj h.1).symm
        rw [if_neg hnone, mul_zero, add_zero]
        rfl
      · cases hupsert : upsertGroup groups name incrementBy with
        | error error =>
            simp only [hupsert] at h
            cases h
        | ok groups' =>
            simp only [hupsert]
            rw [group_count_of_upsert hupsert other]
            by_cases hsame : other = name
            · rw [if_pos hsame, if_pos ⟨congrArg _ hsame.symm, hsame ▸ hempty⟩, mul_one]
            · rw [if_neg hsame, if_neg fun h => hsame (Optional.value.inj h.1).symm, mul_zero]

/-- `syncGroup` changes the count of the name it is given. -/
theorem group_count_of_sync {groupName : Optional String} {incrementBy : Int}
    (hvalid : ValidGroup groupName) (h : (syncGroup groups groupName incrementBy).result = .ok ())
    (other : String) :
    (groupCount (syncGroup groups groupName incrementBy).groups other : Int) =
      groupCount groups other + incrementBy * share groupName other := by
  rw [group_count_of_synced h, counted_in_of_valid hvalid]

/-- `syncGroupOnUpdate` moves one scenario from the old name to the new one. -/
theorem group_count_of_sync_on_update {oldGroupName newGroupName : Optional String}
    (hold : ValidGroup oldGroupName) (hnew : ValidGroup newGroupName)
    (h : (syncGroupOnUpdate groups oldGroupName newGroupName).result = .ok ()) (other : String) :
    (groupCount (syncGroupOnUpdate groups oldGroupName newGroupName).groups other : Int) =
      groupCount groups other + share newGroupName other - share oldGroupName other := by
  unfold syncGroupOnUpdate at h ⊢
  by_cases hsame : oldGroupName = newGroupName
  · rw [if_pos hsame, hsame, add_sub_cancel_right]
  · rw [if_neg hsame] at h ⊢
    dsimp only at h ⊢
    cases hleft : (syncGroup groups oldGroupName (-1)).result with
    | error error =>
        rw [hleft] at h
        dsimp only at h
        rw [hleft] at h
        cases h
    | ok value =>
        rw [hleft] at h
        dsimp only at h ⊢
        rw [group_count_of_sync hnew h, group_count_of_sync hold hleft]
        omega

/-! ## The scenarios and their groups -/

/-- The stored scenarios have groups that they can have, and the counts are theirs. -/
structure GroupInvariant (scenarios : ScenarioStore) (groups : GroupStore) : Prop where
  valid : ∀ scenario ∈ scenarios, ValidGroup scenario.group
  counts : ∀ name, groupCount groups name = scenarios.count (inGroup name)

/-- The group of a stored scenario can lose it. -/
theorem GroupInvariant.can_decrement (hinv : GroupInvariant scenarios groups)
    (hscenario : scenario ∈ scenarios) : ¬ CannotDecrement groups scenario.group := by
  intro h
  obtain ⟨name, hname, -, hinvalid | hzero⟩ := h
  · rw [hinv.valid scenario hscenario name hname] at hinvalid
    cases hinvalid
  · have hpos : 0 < groupCount groups name := by
      rw [hinv.counts name]
      exact Collection.count_pos_iff.mpr ⟨scenario, hscenario, decide_eq_true hname⟩
    obtain ⟨group, hgroup, hsame, hcount⟩ := exists_group_of_count_pos hpos
    have hnone := hzero group (find_group_iff.mpr ⟨hgroup, hsame⟩)
    omega

/-- A new scenario is counted by its group. -/
theorem GroupInvariant.of_insert (hinv : GroupInvariant scenarios groups)
    (hvalid : ValidGroup scenario.group) (h : scenarios.insert? scenario = some scenarios') :
    (syncGroupOnCreate groups scenario.group).result = .ok () ∧
      GroupInvariant scenarios' (syncGroupOnCreate groups scenario.group).groups := by
  have hsynced : (syncGroup groups scenario.group 1).result = .ok () :=
    sync_group_increment_ok hvalid
  refine ⟨hsynced, fun other hother => ?_, fun name => ?_⟩
  · rcases (Collection.mem_of_insert h).mp hother with hold | rfl
    · exact hinv.valid other hold
    · exact hvalid
  · have hcount := group_count_of_sync hvalid hsynced name
    have hbefore := hinv.counts name
    have hafter := @Collection.count_of_insert _ _ _ _ _ _ (inGroup name) _ h
    have hshare := @in_group_share scenario name
    show groupCount (syncGroup groups scenario.group 1).groups name = _
    omega

/-- A removed scenario is no longer counted. -/
theorem GroupInvariant.of_remove (hinv : GroupInvariant scenarios groups)
    (hscenario : scenario ∈ scenarios)
    (hmem : ∀ other, other ∈ scenarios' ↔
      other ∈ scenarios ∧ other.externalId ≠ scenario.externalId) :
    GroupInvariant scenarios' (syncGroupOnDelete groups scenario.group).groups := by
  have hsynced : (syncGroup groups scenario.group (-1)).result = .ok () :=
    sync_group_decrement_ok_iff.mpr (hinv.can_decrement hscenario)
  refine ⟨fun other hother => hinv.valid other ((hmem other).mp hother).1, fun name => ?_⟩
  have hcount := group_count_of_sync (hinv.valid scenario hscenario) hsynced name
  have hbefore := hinv.counts name
  have hafter : scenarios.count (inGroup name) =
      scenarios'.count (inGroup name) + if inGroup name scenario then 1 else 0 :=
    Collection.count_of_remove external_id_key_mem (fun _ => nofun) hscenario rfl fun other => by
      rw [hmem, externalIdKey, ne_eq, ne_eq, Option.some.injEq]
  have hshare := @in_group_share scenario name
  show groupCount (syncGroup groups scenario.group (-1)).groups name = _
  omega

/-- A scenario that is moved is counted by its new group. -/
theorem GroupInvariant.of_update (hinv : GroupInvariant scenarios groups)
    (hscenario : scenario ∈ scenarios) (hvalid : ValidGroup updated.group)
    (hid : updated.externalId = scenario.externalId)
    (hmem : ∀ other, other ∈ scenarios' ↔ other = updated ∨
      (other ∈ scenarios ∧ other.externalId ≠ scenario.externalId)) :
    (syncGroupOnUpdate groups scenario.group updated.group).result = .ok () ∧
      GroupInvariant scenarios'
        (syncGroupOnUpdate groups scenario.group updated.group).groups := by
  have hsynced : (syncGroupOnUpdate groups scenario.group updated.group).result = .ok () :=
    (sync_group_on_update_ok_iff hvalid).mpr fun h => hinv.can_decrement hscenario h.2
  refine ⟨hsynced, fun other hother => ?_, fun name => ?_⟩
  · rcases (hmem other).mp hother with rfl | ⟨hold, -⟩
    · exact hvalid
    · exact hinv.valid other hold
  · have hcount := group_count_of_sync_on_update (hinv.valid scenario hscenario) hvalid hsynced name
    have hbefore := hinv.counts name
    have hafter : scenarios'.count (inGroup name) + (if inGroup name scenario then 1 else 0) =
        scenarios.count (inGroup name) + if inGroup name updated then 1 else 0 :=
      Collection.count_of_replace external_id_key_mem (fun _ => nofun) hscenario rfl
        (congrArg some hid) fun other => by
          rw [hmem, externalIdKey, ne_eq, ne_eq, Option.some.injEq]
    have hold := @in_group_share scenario name
    have hnew := @in_group_share updated name
    omega

/-- The old scenario that is written back has the old group, unless it had none. -/
theorem group_of_restore_fields : (restoreFields scenario updated).group =
    if scenario.group = .undefined then updated.group else scenario.group :=
  rfl

/-- Writing the old scenario back keeps the counts when it leaves the group as it is. -/
theorem GroupInvariant.of_restore {stored : ScenarioStore}
    (hinv : GroupInvariant stored groups) (hscenario : scenario ∈ scenarios)
    (hid : updated.externalId = scenario.externalId)
    (hmem : ∀ other, other ∈ stored ↔ other = updated ∨
      (other ∈ scenarios ∧ other.externalId ≠ scenario.externalId))
    (hgroup : scenario.group = .undefined ∨ updated.group = scenario.group)
    (hrestored : restoreScenario stored scenario = .ok scenarios') :
    GroupInvariant scenarios' groups := by
  obtain ⟨restored, hok, hafter⟩ := restore_scenario_ok hscenario hid hmem
  rw [hok, Except.ok.injEq] at hrestored
  subst hrestored
  -- an undefined group is not written back, so the update keeps its new one
  have hsame : (restoreFields scenario updated).group = updated.group := by
    rw [group_of_restore_fields]
    rcases hgroup with hundefined | hsame
    · rw [if_pos hundefined]
    · split_ifs
      · rfl
      · exact hsame.symm
  have hupdated : updated ∈ stored := (hmem updated).mpr (.inl rfl)
  refine ⟨fun other hother => ?_, fun name => ?_⟩
  · rcases (hafter other).mp hother with rfl | hold
    · rw [hsame]
      exact hinv.valid updated hupdated
    · exact hinv.valid other ((hmem other).mpr (.inr hold))
  · have hbefore := hinv.counts name
    have hcount : restored.count (inGroup name) + (if inGroup name updated then 1 else 0) =
        stored.count (inGroup name) +
          if inGroup name (restoreFields scenario updated) then 1 else 0 :=
      Collection.count_of_replace external_id_key_mem (fun _ => nofun) hupdated
        (congrArg some hid) (congrArg some hid) fun other => by
          rw [hafter, hmem, externalIdKey, ne_eq, ne_eq, Option.some.injEq]
          refine or_congr_right ⟨fun h => ⟨.inr h, h.2⟩, fun h => ?_⟩
          obtain ⟨h, hne⟩ := h
          rcases h with rfl | h
          · exact absurd hid hne
          · exact h
    have hshare : inGroup name (restoreFields scenario updated) = inGroup name updated := by
      rw [inGroup, inGroup, hsame]
    rw [hshare] at hcount
    omega

/-! ## The calls -/

section Calls

variable [ExternalCalls] {hub : ScenarioHub} {externalId : String}

omit [ExternalCalls] in
/-- `removeScenario` leaves the counts in step, whatever it is rejected for. -/
theorem remove_keeps_counts (hinv : GroupInvariant hub.scenarios hub.groups) :
    GroupInvariant (removeScenario hub externalId).scenarios
      (removeScenario hub externalId).groups := by
  cases h : findByExternalId hub.scenarios externalId with
  | none =>
      rw [removeScenario, h]
      exact hinv
  | some scenario =>
      obtain ⟨hscenario, hid⟩ := find_by_external_id_iff.mp h
      have hgroups : (removeScenario hub externalId).groups =
          (syncGroupOnDelete hub.groups scenario.group).groups := by
        simp only [removeScenario, h]
        -- an error of the groups or of the jobs comes after the group was synced
        split
        · rfl
        · split
          · split <;> rfl
          · rfl
      rw [hgroups]
      refine hinv.of_remove hscenario fun other => ?_
      rw [mem_of_remove h, hid]

/-- `addScenario` leaves the counts in step, also when it removes the new scenario again. -/
theorem add_keeps_counts (hinv : GroupInvariant hub.scenarios hub.groups)
    (scenarioDto : CreateScenarioDto) :
    GroupInvariant (addScenario hub externalId scenarioDto).scenarios
      (addScenario hub externalId scenarioDto).groups := by
  unfold addScenario
  split
  · exact hinv
  · dsimp only
    split
    · exact hinv
    · rename_i added stored hsaved
      obtain ⟨-, -, hsaved⟩ := bind_ok_iff.mp hsaved
      obtain ⟨sources, -, hsaved⟩ := bind_ok_iff.mp hsaved
      obtain ⟨inserted, hinserted, hsame⟩ := bind_ok_iff.mp hsaved
      cases hsame
      obtain ⟨hvalid, hinsert⟩ := save_new_ok hinserted
      obtain ⟨hsynced, hadded⟩ :=
        hinv.of_insert (fun _ => is_group_name_of_valid hvalid) hinsert
      unfold scheduleNewScenario
      simp only [hsynced]
      split
      · split
        · exact hadded
        · -- the job is refused, and `removeScenario` takes the scenario back
          exact remove_keeps_counts hadded
      · exact hadded

/-- The job of the updated scenario is refused once the old job is unscheduled: the expression is
not accepted, or the name belongs to another job. -/
structure RollsBack (jobs : JobRegistry) (scenario updated : Scenario) : Prop where
  unscheduled : (jobOf scenario).isSome = true → ∃ job ∈ jobs, job.name = scenario.name
  refused : ∃ job, jobOf updated = some job ∧ (CronAccepted job → ∃ other ∈ jobs,
    other.name = updated.name ∧ ((jobOf scenario).isSome = true → other.name ≠ scenario.name))

/-- Rescheduling leaves the groups alone, and writes the old scenario back only if it rolls back. -/
theorem reschedule_cases {stored : ScenarioStore} {groups : GroupStore} {jobs : JobRegistry} :
    (rescheduleScenario stored groups jobs scenario updated).groups = groups ∧
      ((rescheduleScenario stored groups jobs scenario updated).scenarios = stored ∨
        (RollsBack jobs scenario updated ∧ restoreScenario stored scenario =
          .ok (rescheduleScenario stored groups jobs scenario updated).scenarios)) := by
  unfold rescheduleScenario
  dsimp only
  split
  · exact ⟨rfl, .inl rfl⟩
  · rename_i rest hunscheduled
    split
    · rename_i hcron
      split
      · exact ⟨rfl, .inl rfl⟩
      · rename_i error hfailed
        split
        · exact ⟨rfl, .inl rfl⟩
        · rename_i restored hrestored
          have hrolls : RollsBack jobs scenario updated := by
            refine ⟨fun hold => ?_, ?_⟩
            · rw [if_pos (cron_and_active_iff.mpr hold)] at hunscheduled
              exact unschedule_ok_iff.mp ⟨rest, hunscheduled⟩
            · obtain ⟨job, hjob⟩ := Option.isSome_iff_exists.mp (cron_and_active_iff.mp hcron)
              refine ⟨job, hjob, fun haccepted => ?_⟩
              by_contra hfree
              -- otherwise the name is free, and the job is scheduled
              obtain ⟨scheduled, hscheduled⟩ := schedule_scenario_free
                (job_of_eq_some_iff.mp hjob).2 haccepted fun other hother hname => by
                  refine hfree ?_
                  split_ifs at hunscheduled with hold
                  · obtain ⟨hjobs, hne⟩ := (mem_of_unschedule hunscheduled).mp hother
                    exact ⟨other, hjobs, hname, fun _ => hne⟩
                  · cases hunscheduled
                    exact ⟨other, hother, hname,
                      fun h => absurd (cron_and_active_iff.mpr h) hold⟩
              rw [hfailed] at hscheduled
              cases hscheduled
          split
          · exact ⟨rfl, .inr ⟨hrolls, hrestored⟩⟩
          · exact ⟨rfl, .inr ⟨hrolls, hrestored⟩⟩
    · exact ⟨rfl, .inl rfl⟩

/-- `updateScenario` leaves the counts in step if a rollback has no group to write back. -/
theorem update_keeps_counts (hinv : GroupInvariant hub.scenarios hub.groups)
    {scenarioDto : UpdateScenarioDto}
    (hkeeps : ∀ scenario updated stored,
      SavesUpdate hub externalId scenarioDto scenario updated stored →
        RollsBack hub.jobs scenario updated →
          scenario.group = .undefined ∨ updated.group = scenario.group) :
    GroupInvariant (updateScenario hub externalId scenarioDto).scenarios
      (updateScenario hub externalId scenarioDto).groups := by
  by_cases hsaves : ∃ scenario updated stored,
      SavesUpdate hub externalId scenarioDto scenario updated stored
  · obtain ⟨scenario, updated, stored, hsaves⟩ := hsaves
    have hscenario := (find_by_external_id_iff.mp hsaves.found).1
    have hid := (prepare_scenario_ok hsaves.prepared).1
    have hvalid : ValidGroup updated.group := fun _ => is_group_name_of_valid
      (save_over_stored (find_by_external_id_iff.mpr ⟨hscenario, rfl⟩) hsaves.saved).1
    obtain ⟨hsynced, hmoved⟩ := hinv.of_update hscenario hvalid hid hsaves.mem_iff
    rw [update_of_saves hsaves, hsynced]
    dsimp only
    obtain ⟨hgroups, hcases⟩ := @reschedule_cases scenario updated _ stored
      (syncGroupOnUpdate hub.groups scenario.group updated.group).groups hub.jobs
    rw [hgroups]
    rcases hcases with hstored | ⟨hrolls, hrestored⟩
    · rw [hstored]
      exact hmoved
    · exact hmoved.of_restore hscenario hid hsaves.mem_iff
        (hkeeps scenario updated stored hsaves hrolls) hrestored
  · obtain ⟨error, hrejected⟩ := update_of_not_saves fun scenario updated stored h =>
      hsaves ⟨scenario, updated, stored, h⟩
    rw [hrejected]
    exact hinv

end Calls

/-- A group that is deleted is not counted any more, and the other groups are. -/
theorem group_count_of_delete (group : ScenarioGroup) (name : String) :
    groupCount (groups.filter fun other => groupNameKey other ≠ groupNameKey group) name =
      if name = group.name then 0 else groupCount groups name := by
  have hmem (other : ScenarioGroup) :
      other ∈ (groups.filter fun other => groupNameKey other ≠ groupNameKey group) ↔
        other ∈ groups ∧ other.name ≠ group.name := by
    rw [Collection.mem_filter, decide_eq_true_eq, groupNameKey, groupNameKey, ne_eq, ne_eq,
      Option.some.injEq]
  split_ifs with hsame
  · refine group_count_of_absent fun other hother => ?_
    rw [hsame]
    exact ((hmem other).mp hother).2
  · refine group_count_congr fun other hname => ?_
    rw [hmem]
    exact and_iff_left (hname ▸ hsame)

/-- A scenario whose group is cleared has no group any more. -/
theorem in_group_clear_group (cleared : String) : inGroup name (clearGroup cleared scenario) =
    (inGroup name scenario && decide (scenario.group ≠ .value cleared)) := by
  unfold inGroup clearGroup
  split_ifs with hgroup
  · rw [decide_eq_false (not_not.mpr hgroup), Bool.and_false]
    rfl
  · rw [decide_eq_true hgroup, Bool.and_true]

/-- The scenarios that are left by a deleted group. -/
theorem count_without_group (deleted : String) :
    (scenarios.count fun scenario =>
      inGroup name scenario && decide (scenario.group ≠ .value deleted)) =
      if name = deleted then 0 else scenarios.count (inGroup name) := by
  split_ifs with hsame
  · by_contra hne
    obtain ⟨scenario, -, hin⟩ := Collection.count_pos_iff.mp (Nat.pos_of_ne_zero hne)
    rw [Bool.and_eq_true, decide_eq_true_eq] at hin
    exact hin.2 (hsame ▸ of_decide_eq_true hin.1)
  · refine congrArg scenarios.count (funext fun scenario => ?_)
    cases hin : inGroup name scenario with
    | false => rfl
    | true =>
        have hgroup : scenario.group = .value name := of_decide_eq_true hin
        rw [hgroup, Bool.true_and, decide_eq_true_eq]
        exact fun hdeleted => hsame (Optional.value.inj hdeleted)

/-- `deleteGroup` leaves the counts in step. -/
theorem delete_group_keeps_counts (hinv : GroupInvariant scenarios groups)
    {deleteScenarios : Option Bool} :
    GroupInvariant (deleteGroup scenarios groups name deleteScenarios).scenarios
      (deleteGroup scenarios groups name deleteScenarios).groups := by
  unfold deleteGroup
  cases hfind : findGroup groups (trim name) with
  | none => exact hinv
  | some group =>
      have hgroup := (find_group_iff.mp hfind).1
      dsimp only
      split
      · exact hinv
      · dsimp only
        split
        · -- the scenarios of the group are deleted, or their group is cleared
          split
          · refine ⟨fun scenario hscenario => ?_, fun other => ?_⟩
            · exact hinv.valid scenario (Collection.mem_filter.mp hscenario).1
            · rw [group_count_of_delete, Collection.count_filter, count_without_group,
                hinv.counts other]
          · refine ⟨fun scenario hscenario => ?_, fun other => ?_⟩
            · obtain ⟨old, hold, rfl⟩ := (Collection.mem_map_docs _).mp hscenario
              unfold clearGroup
              split_ifs
              · intro other hgroup
                cases hgroup
              · exact hinv.valid old hold
            · rw [group_count_of_delete, Collection.count_map_docs]
              simp only [in_group_clear_group]
              rw [count_without_group, hinv.counts other]
        · -- the group counts no scenario, so there is none to be looked for
          rename_i hempty
          refine ⟨hinv.valid, fun other => ?_⟩
          rw [group_count_of_delete]
          split_ifs with hsame
          · have hcount := hinv.counts other
            rw [group_count_of_mem hgroup hsame.symm] at hcount
            omega
          · exact hinv.counts other

/-- `createGroup` leaves the counts in step. -/
theorem create_group_keeps_counts {created : ScenarioGroup}
    (hinv : GroupInvariant scenarios groups)
    (h : createGroup groups name = .ok (groups', created)) :
    GroupInvariant scenarios groups' := by
  refine ⟨hinv.valid, fun other => ?_⟩
  unfold createGroup at h
  split at h
  · cases h
  · obtain ⟨upserted, hupsert, hsame⟩ := bind_ok_iff.mp h
    cases hsame
    have hcount := group_count_of_upsert hupsert other
    rw [ite_self, add_zero, Int.ofNat_inj] at hcount
    rw [hcount, hinv.counts other]

/-! ## Runs -/

/-- The calls that change scenarios or groups. -/
inductive GroupedCall where
  | scenarioCall (call : ScenarioCall)
  | createGroup (name : String)

section Runs

variable [ExternalCalls] {hub : ScenarioHub}

/-- The hub after a call has completed, with a value or with an error. -/
def completeGrouped (hub : ScenarioHub) : GroupedCall → ScenarioHub
  | .scenarioCall call => complete hub call
  | .createGroup name =>
      match createGroup hub.groups name with
      | .ok (groups, _) => { hub with groups }
      | .error _ => hub

/-- A call completes. The devices, the configs and the time of day may be others by the next one. -/
structure CompletesGrouped (hub : ScenarioHub) (call : GroupedCall) (next : ScenarioHub) :
    Prop where
  scenarios : next.scenarios = (completeGrouped hub call).scenarios
  groups : next.groups = (completeGrouped hub call).groups
  jobs : next.jobs = (completeGrouped hub call).jobs

theorem CompletesGrouped.unchanged (hub : ScenarioHub) (call : GroupedCall) :
    CompletesGrouped hub call (completeGrouped hub call) :=
  ⟨rfl, rfl, rfl⟩

/-- An update that is rolled back leaves the scenario in its group, or gives a group to a scenario
whose group is undefined. -/
def KeepsGroupCounts (hub : ScenarioHub) : GroupedCall → Prop
  | .scenarioCall (.updateScenario externalId scenarioDto) => ∀ scenario updated stored,
      SavesUpdate hub externalId scenarioDto scenario updated stored →
        RollsBack hub.jobs scenario updated →
          scenario.group = .undefined ∨ updated.group = scenario.group
  | _ => True

/-- Each of these calls leaves the counts in step. -/
theorem complete_keeps_counts (hinv : GroupInvariant hub.scenarios hub.groups)
    {call : GroupedCall} (hkeeps : KeepsGroupCounts hub call) :
    GroupInvariant (completeGrouped hub call).scenarios (completeGrouped hub call).groups := by
  cases call with
  | scenarioCall call =>
      cases call with
      | addScenario externalId scenarioDto => exact add_keeps_counts hinv scenarioDto
      | updateScenario externalId scenarioDto => exact update_keeps_counts hinv hkeeps
      | removeScenario externalId => exact remove_keeps_counts hinv
      | deleteGroup name deleteScenarios => exact delete_group_keeps_counts hinv
  | createGroup name =>
      unfold completeGrouped
      dsimp only
      split
      · rename_i groups created hcreated
        exact create_group_keeps_counts hinv hcreated
      · exact hinv

/-- From an empty hub on, when no update that changes the group of a scenario is rolled back, every
group counts the stored scenarios of its name, and every group of a stored scenario exists. -/
theorem group_counts_of_run {start : ScenarioHub} (hscenarios : start.scenarios = .empty)
    (hgroups : start.groups = .empty)
    (hrun : Reaches CompletesGrouped KeepsGroupCounts start hub) :
    GroupsInStep hub.scenarios hub.groups := by
  have hstart : GroupInvariant start.scenarios start.groups := by
    rw [hscenarios, hgroups]
    refine ⟨fun scenario hscenario => ?_, fun _ => rfl⟩
    cases hscenario
  have hinv : GroupInvariant hub.scenarios hub.groups :=
    @Reaches.invariant _ _ _ _ _ _ (fun hub => GroupInvariant hub.scenarios hub.groups) hrun hstart
      fun hub call next hcurrent hallowed hnext => by
        rw [hnext.scenarios, hnext.groups]
        exact complete_keeps_counts hcurrent hallowed
  exact groups_in_step_iff.mpr hinv.counts

end Runs

/-! ## A light in the evening -/

/-- The hub with the scenario of the morning and a group without scenarios. -/
def eveningsCreated : ScenarioHub :=
  @completeGrouped morningCalls morningAdded (.createGroup "evenings")

theorem group_counts_of_run_created :
    GroupsInStep eveningsCreated.scenarios eveningsCreated.groups :=
  @group_counts_of_run morningCalls eveningsCreated lampHub rfl rfl
    (.tail (.single ⟨.scenarioCall (.addScenario morningId morningDto), trivial,
      @CompletesGrouped.unchanged morningCalls _ _⟩)
      ⟨.createGroup "evenings", trivial, @CompletesGrouped.unchanged morningCalls _ _⟩)

/-- The external id that the schema generates for the second scenario. -/
def eveningId : String :=
  "7c9e6679-7425-40de-944b-e07fc1f90ae7"

/-- The hub with a scenario of another group, where the job of the deleted scenario is still
registered. -/
def eveningAdded : ScenarioHub :=
  @completeGrouped morningCalls morningsDeleted (.scenarioCall (.addScenario eveningId
    { morningDto with name := "Evening light", group := .value "evenings" }))

/-- The update of the scenario to another group and to the name of the deleted one. -/
def moveCall : GroupedCall :=
  .scenarioCall (.updateScenario eveningId
    { name := some "Morning light", group := some "nights" })

/-- The update is rolled back because its job name is taken, and the new group counts a scenario
that it does not have. -/
theorem rolled_back_move_miscounts :
    ∃ hub, Reaches (@CompletesGrouped morningCalls) anyAction lampHub hub ∧
      ¬ GroupsInStep hub.scenarios hub.groups := by
  refine ⟨@completeGrouped morningCalls eveningAdded moveCall, ?_, fun hstep => ?_⟩
  · have hadded : Reaches (@CompletesGrouped morningCalls) anyAction lampHub morningAdded :=
      .of_step trivial (@CompletesGrouped.unchanged morningCalls lampHub
        (.scenarioCall (.addScenario morningId morningDto)))
    have hdeleted : Reaches (@CompletesGrouped morningCalls) anyAction lampHub morningsDeleted :=
      .tail hadded ⟨.scenarioCall (.deleteGroup "mornings" (some true)), trivial,
        @CompletesGrouped.unchanged morningCalls _ _⟩
    exact .tail (.tail hdeleted ⟨_, trivial, @CompletesGrouped.unchanged morningCalls _ _⟩)
      ⟨_, trivial, @CompletesGrouped.unchanged morningCalls _ _⟩
  · have hcounts := groups_in_step_iff.mp hstep "nights"
    revert hcounts
    decide +kernel

end MyHomeHub.ScenariosService
