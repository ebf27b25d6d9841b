import MyHomeHub.Library.ExclusiveReads
import MyHomeHub.Scenarios.GroupCounts

/-!
# Concurrent changes of the group counts

`upsertGroup` reads a group, adds to its count in memory and saves the count. The calls of
`syncGroupOnCreate`, `syncGroupOnUpdate` and `syncGroupOnDelete` are sequences of such
upserts, and between a read and its save other calls can take steps of their own.

`group_counts_of_syncs` says that no change is lost in a run in which no call reads a group
that another call has read and not yet saved.
-/

namespace MyHomeHub.ScenarioGroups

open JavaScript Library ScenarioSchema ScenariosService
open Library.ExclusiveReads

/-! ## An upsert in two steps -/

/-- An upsert: the name of a group, and what is added to its count. -/
structure Upsert where
  name : String
  incrementBy : Int

/-- The end of `upsertGroup`, with the group that was read. The save writes the changed count. -/
def saveUpserted (groups : GroupStore) (upsert : Upsert) :
    Option ScenarioGroup → Except HubError GroupStore
  | some existingGroup =>
      let scenariosCount := existingGroup.scenariosCount + upsert.incrementBy
      match invalidGroupPaths upsert.name scenariosCount with
      | [] =>
          match groups.updateFirst (fun group => groupNameKey group = some upsert.name)
              (fun group => { group with scenariosCount := scenariosCount.toNat }) with
          | .ok groups => .ok groups
          | .error .noDocument => .error .documentNotFound
          | .error .duplicateKey => .error .duplicateKey
      | paths => .error (.documentValidation paths)
  | none =>
      match invalidGroupPaths upsert.name upsert.incrementBy with
      | [] =>
          match groups.insert? ⟨upsert.name, upsert.incrementBy.toNat⟩ with
          | some groups => .ok groups
          | none => .error .duplicateKey
      | paths => .error (.documentValidation paths)

/-- The stored groups under their names. -/
def groupRegisters : Registers GroupStore String (Option ScenarioGroup) Upsert HubError where
  key upsert := upsert.name
  read := findGroup
  save := saveUpserted

/-- Both steps of an upsert in a row are `upsertGroup`. -/
theorem perform_eq_upsert_group (groups : GroupStore) (upsert : Upsert) :
    groupRegisters.perform groups upsert = upsertGroup groups upsert.name upsert.incrementBy := by
  show saveUpserted groups upsert (findGroup groups upsert.name) = _
  rw [upsertGroup]
  cases findGroup groups upsert.name with
  | none => rfl
  | some existingGroup => rfl

/-- A call that no other call interrupts takes two steps for an upsert. -/
theorem two_steps_eq_upsert_group (groups : GroupStore) (upsert : Upsert) (rest : List Upsert) :
    let first := Phase.step groupRegisters groups (.ready (upsert :: rest))
    Phase.step groupRegisters first.1 first.2 =
      match upsertGroup groups upsert.name upsert.incrementBy with
      | .ok groups => (groups, .ready rest)
      | .error _ => (groups, .refused (upsert :: rest)) := by
  rw [← perform_eq_upsert_group]
  refine (step_step groups upsert rest).trans ?_
  cases groupRegisters.perform groups upsert <;> rfl

/-! ## The calls -/

/-- A call of the groups service. -/
inductive SyncCall where
  | syncGroupOnCreate (groupName : Optional String)
  | syncGroupOnUpdate (oldGroupName newGroupName : Optional String)
  | syncGroupOnDelete (groupName : Optional String)

/-- The upsert for a name that may be missing. -/
def upsertOf (groupName : Optional String) (incrementBy : Int) : List Upsert :=
  match groupName with
  | .value "" => []
  | .value name => [⟨name, incrementBy⟩]
  | _ => []

/-- The upserts of a call. -/
def SyncCall.upserts : SyncCall → List Upsert
  | .syncGroupOnCreate groupName => upsertOf groupName 1
  | .syncGroupOnUpdate oldGroupName newGroupName =>
      if oldGroupName = newGroupName then []
      else upsertOf oldGroupName (-1) ++ upsertOf newGroupName 1
  | .syncGroupOnDelete groupName => upsertOf groupName (-1)

/-- The outcome of a call that no other call interrupts. -/
def SyncCall.outcome (groups : GroupStore) : SyncCall → GroupsOutcome
  | .syncGroupOnCreate groupName => ScenarioGroups.syncGroupOnCreate groups groupName
  | .syncGroupOnUpdate oldGroupName newGroupName =>
      ScenarioGroups.syncGroupOnUpdate groups oldGroupName newGroupName
  | .syncGroupOnDelete groupName => ScenarioGroups.syncGroupOnDelete groups groupName

/-- Upserts one after the other, up to one that is refused. -/
def performAll (groups : GroupStore) : List Upsert → GroupsOutcome
  | [] => ⟨groups, .ok ()⟩
  | upsert :: upserts =>
      match groupRegisters.perform groups upsert with
      | .ok groups => performAll groups upserts
      | .error error => ⟨groups, .error error⟩

theorem perform_all_upsert_of (groups : GroupStore) (groupName : Optional String)
    (incrementBy : Int) :
    performAll groups (upsertOf groupName incrementBy) =
      syncGroup groups groupName incrementBy := by
  unfold upsertOf syncGroup
  cases groupName with
  | undefined => rfl
  | null => rfl
  | value name =>
      by_cases hempty : name = ""
      · subst hempty
        rfl
      · cases hupsert : upsertGroup groups name incrementBy with
        | ok updated => simp only [performAll, perform_eq_upsert_group, hupsert]
        | error error => simp only [performAll, perform_eq_upsert_group, hupsert]

theorem perform_all_append (groups : GroupStore) (first second : List Upsert) :
    performAll groups (first ++ second) =
      match (performAll groups first).result with
      | .ok () => performAll (performAll groups first).groups second
      | .error _ => performAll groups first := by
  induction first generalizing groups with
  | nil => rfl
  | cons upsert first ih =>
      rw [List.cons_append, performAll, performAll]
      cases groupRegisters.perform groups upsert with
      | ok updated => exact ih updated
      | error error => rfl

/-- A call that no other call interrupts performs its upserts. -/
theorem outcome_eq_perform_all (groups : GroupStore) (call : SyncCall) :
    call.outcome groups = performAll groups call.upserts := by
  cases call with
  | syncGroupOnCreate groupName => exact (perform_all_upsert_of groups groupName 1).symm
  | syncGroupOnDelete groupName => exact (perform_all_upsert_of groups groupName (-1)).symm
  | syncGroupOnUpdate oldGroupName newGroupName =>
      rw [SyncCall.outcome, ScenarioGroups.syncGroupOnUpdate, SyncCall.upserts]
      split_ifs
      · rfl
      · rw [perform_all_append, perform_all_upsert_of]
        dsimp only
        split
        · rename_i error herror
          rw [herror]
        · rename_i hok
          rw [hok, perform_all_upsert_of]

/-! ## Many calls -/

/-- The groups while calls are running. -/
abbrev Syncs (Call : Type) :=
  System Call GroupStore (Option ScenarioGroup) Upsert

/-- Every call has completed. -/
def Completed {Call : Type} (syncs : Syncs Call) : Prop :=
  ∀ call, syncs.phases call = .ready []

/-- Whether a call adds a scenario to a group. -/
def SyncCall.Adds (name : String) : SyncCall → Prop
  | .syncGroupOnCreate groupName => groupName = .value name ∧ name ≠ ""
  | .syncGroupOnUpdate oldGroupName newGroupName =>
      oldGroupName ≠ newGroupName ∧ newGroupName = .value name ∧ name ≠ ""
  | .syncGroupOnDelete _ => False

/-- Whether a call removes a scenario from a group. -/
def SyncCall.Removes (name : String) : SyncCall → Prop
  | .syncGroupOnCreate _ => False
  | .syncGroupOnUpdate oldGroupName newGroupName =>
      oldGroupName ≠ newGroupName ∧ oldGroupName = .value name ∧ name ≠ ""
  | .syncGroupOnDelete groupName => groupName = .value name ∧ name ≠ ""

instance (name : String) : DecidablePred (SyncCall.Adds name) := fun call =>
  match call with
  | .syncGroupOnCreate _ => inferInstanceAs (Decidable (_ ∧ _))
  | .syncGroupOnUpdate _ _ => inferInstanceAs (Decidable (_ ∧ _ ∧ _))
  | .syncGroupOnDelete _ => inferInstanceAs (Decidable False)

instance (name : String) : DecidablePred (SyncCall.Removes name) := fun call =>
  match call with
  | .syncGroupOnCreate _ => inferInstanceAs (Decidable False)
  | .syncGroupOnUpdate _ _ => inferInstanceAs (Decidable (_ ∧ _ ∧ _))
  | .syncGroupOnDelete _ => inferInstanceAs (Decidable (_ ∧ _))

/-- A saved group is the only one that has changed. -/
theorem saves_one_group : SavesOneKey groupRegisters := by
  intro groups upsert existing groups' h name hne
  refine find_group_congr fun group hname => ?_
  have hother : group.name ≠ upsert.name := by
    rw [hname]
    exact hne
  unfold groupRegisters saveUpserted at h
  dsimp only at h
  split at h
  · split at h
    · split at h
      · rename_i updated hupdate
        cases h
        obtain ⟨old, -, hkey, hmem⟩ := Collection.mem_of_update_first List.mem_cons_self hupdate
        have hold : old.name = upsert.name := Option.some.inj hkey
        rw [hmem]
        refine ⟨fun hgroup => ?_, fun hgroup => .inr ⟨hgroup, fun hsame => ?_⟩⟩
        · rcases hgroup with rfl | ⟨hgroup, -⟩
          · exact absurd hold hother
          · exact hgroup
        · exact hother (Option.some.inj hsame)
      · cases h
      · cases h
    · cases h
  · split at h
    · split at h
      · rename_i inserted hinsert
        cases h
        rw [Collection.mem_of_insert hinsert, or_iff_left]
        rintro rfl
        exact hother rfl
      · cases h
    · cases h

/-- An upsert of the current group changes its count by the increment. -/
theorem group_count_additive :
    Additive groupRegisters (fun upsert => upsert.incrementBy)
      (fun groups name => (groupCount groups name : ℤ)) := by
  intro groups upsert groups' hperform name
  rw [perform_eq_upsert_group] at hperform
  rw [amountAt]
  refine (group_count_of_upsert hperform name).trans ?_
  exact congrArg _ (if_congr eq_comm rfl rfl)

/-- What the upserts of a name add to the count of a group. -/
theorem amounts_at_upsert_of (groupName : Optional String) (incrementBy : Int) (name : String) :
    amountsAt groupRegisters (fun upsert => upsert.incrementBy) name
      (upsertOf groupName incrementBy) = incrementBy * countedIn groupName name := by
  unfold upsertOf countedIn
  cases groupName with
  | undefined => simp [amountsAt]
  | null => simp [amountsAt]
  | value own =>
      by_cases hempty : own = ""
      · subst hempty
        have hnone : ¬ (Optional.value "" = .value name ∧ name ≠ "") := by
          intro h
          exact h.2 (Optional.value.inj h.1).symm
        rw [if_neg hnone, mul_zero]
        rfl
      · by_cases hname : own = name
        · subst hname
          simp [amountsAt, amountAt, groupRegisters, hempty]
        · simp [amountsAt, amountAt, groupRegisters, hname]

/-- What a call adds to the count of a group. -/
theorem amounts_at_upserts (call : SyncCall) (name : String) :
    amountsAt groupRegisters (fun upsert => upsert.incrementBy) name call.upserts =
      (if call.Adds name then 1 else 0) - (if call.Removes name then 1 else 0) := by
  cases call with
  | syncGroupOnCreate groupName =>
      rw [SyncCall.upserts, amounts_at_upsert_of, one_mul]
      exact (sub_zero _).symm
  | syncGroupOnDelete groupName =>
      rw [SyncCall.upserts, amounts_at_upsert_of, neg_one_mul]
      exact (zero_sub _).symm
  | syncGroupOnUpdate oldGroupName newGroupName =>
      rw [SyncCall.upserts]
      by_cases hsame : oldGroupName = newGroupName
      · rw [if_pos hsame, if_neg fun h => h.1 hsame, if_neg fun h => h.1 hsame, sub_zero]
        rfl
      · rw [if_neg hsame, amounts_at_append, amounts_at_upsert_of, amounts_at_upsert_of]
        simp only [countedIn, SyncCall.Adds, SyncCall.Removes, ne_eq, hsame, not_false_eq_true,
          true_and]
        ring

/-- If no call reads a group that another call has read and not yet saved, the count of every group
in the end is the initial one with the calls that added a scenario to it and without those that
removed one. -/
theorem group_counts_of_syncs {Call : Type} [Fintype Call] [DecidableEq Call]
    (calls : Call → SyncCall) (groups : GroupStore) (syncs : Syncs Call)
    (hrun : Reaches (Steps groupRegisters) (ReadsAlone groupRegisters)
      (.start groups fun call => (calls call).upserts) syncs)
    (hdone : Completed syncs) (name : String) :
    (groupCount syncs.store name : ℤ) = groupCount groups name +
      (Finset.univ.filter fun call => (calls call).Adds name).card -
      (Finset.univ.filter fun call => (calls call).Removes name).card := by
  have htotal := total_of_finished_run saves_one_group group_count_additive hrun hdone name
  simp only [amounts_at_upserts, Finset.sum_sub_distrib, Finset.sum_boole] at htotal
  omega

/-! ## Two scenarios of one group -/

/-- A group with one scenario. -/
def lights : GroupStore :=
  ⟨[⟨"lights", 1⟩], List.pairwise_singleton _ _⟩

/-- Two more scenarios of the group are created. -/
def createCalls (_ : Fin 2) : SyncCall :=
  .syncGroupOnCreate (.value "lights")

/-- The two calls take their steps in the order of a schedule. -/
def twoCreated (schedule : List (Fin 2)) : Syncs (Fin 2) :=
  schedule.foldl (System.step groupRegisters)
    (.start lights fun call => (createCalls call).upserts)

theorem two_created_step (schedule : List (Fin 2)) (call : Fin 2) :
    Steps groupRegisters (twoCreated schedule) call (twoCreated (schedule ++ [call])) := by
  rw [Steps, twoCreated, twoCreated, List.foldl_append]
  rfl

/-- One call after the other counts both scenarios. -/
theorem group_counts_of_syncs_serial :
    (groupCount (twoCreated [0, 0, 1, 1]).store "lights" : ℤ) = groupCount lights "lights" +
      (Finset.univ.filter fun call => (createCalls call).Adds "lights").card -
      (Finset.univ.filter fun call => (createCalls call).Removes "lights").card := by
  have hrun : Reaches (Steps groupRegisters) (ReadsAlone groupRegisters) (twoCreated [])
      (twoCreated [0, 0, 1, 1]) := by
    refine .tail (.tail (.tail (.tail .refl
      ⟨0, ?_, two_created_step [] 0⟩) ⟨0, ?_, two_created_step [0] 0⟩)
      ⟨1, ?_, two_created_step [0, 0] 1⟩) ⟨1, ?_, two_created_step [0, 0, 1] 1⟩
    all_goals
      refine reads_alone_of_ready fun other hne => ?_
      fin_cases other
      all_goals first | exact absurd rfl hne | exact ⟨_, rfl⟩
  refine group_counts_of_syncs createCalls lights _ hrun (fun call => ?_) "lights"
  fin_cases call <;> rfl

/-- When both calls read the group before one of them saves it, one scenario is not counted. -/
theorem overlapping_creates_miscount :
    Reaches (Steps groupRegisters) anyAction (twoCreated []) (twoCreated [0, 1, 0, 1]) ∧
      Completed (twoCreated [0, 1, 0, 1]) ∧
      groupCount (twoCreated [0, 1, 0, 1]).store "lights" = 2 ∧
      (groupCount (twoCreated [0, 1, 0, 1]).store "lights" : ℤ) ≠ groupCount lights "lights" +
        (Finset.univ.filter fun call => (createCalls call).Adds "lights").card -
        (Finset.univ.filter fun call => (createCalls call).Removes "lights").card := by
  refine ⟨?_, fun call => ?_, by decide +kernel, by decide +kernel⟩
  · exact .tail (.tail (.tail (.tail .refl
      ⟨0, trivial, two_created_step [] 0⟩) ⟨1, trivial, two_created_step [0] 1⟩)
      ⟨0, trivial, two_created_step [0, 1] 0⟩) ⟨1, trivial, two_created_step [0, 1, 0] 1⟩
  · fin_cases call <;> rfl

end MyHomeHub.ScenarioGroups
