import MyHomeHub.DeviceConfigs.Watcher

/-!
# The store follows the directory

When each sync is over before the timer starts the next one, and no upsert is rejected,
the store holds what the last sync has read. Together with the watcher this means that the
store holds what the directory holds, once the directory has been left alone.
-/

namespace MyHomeHub.ConfigsService

open JavaScript Library ConfigsParser ConfigSchema

/-- The timer starts a sync only when no other one is under way, and no upsert is rejected. -/
def OneAtATime (s : WatchState) : WatchAction → Prop
  | .scheduledSync => ∀ phase ∈ s.sync.syncs, phase.IsOver
  | .sync (.rejectUpsert _ _) => False
  | _ => True

section Stored

variable [ExternalCalls] [YamlCalls] [SchemaCasts]

/-- All parsed configs were upserted, and the others removed. -/
def HoldsParsed (parsed : List DeviceConfig) (store : ConfigStore) : Prop :=
  ∃ (before upserted : ConfigStore) (order : List DeviceConfig), order.Perm parsed ∧
    order.foldlM upsertConfig before = some upserted ∧
    store = removeStaleConfigs upserted (parsed.map (·.key))

/-- What an undisturbed sync has made of the store so far. -/
def StoredSoFar (store : ConfigStore) : SyncPhase → Prop
  | .reading => True
  | .upserting parsed pending =>
      ∃ (before : ConfigStore) (order : List DeviceConfig), (order ++ pending).Perm parsed ∧
        order.foldlM upsertConfig before = some store
  | .clearing parsed | .done parsed => HoldsParsed parsed store
  | .rejected _ => False

/-- The last sync is alone at work. -/
structure StoreInvariant (s : WatchState) : Prop where
  watch : WatchInvariant s
  last : ∃ earlier last, s.sync.syncs = earlier ++ [last] ∧
    (∀ phase ∈ earlier, ∃ parsed, phase = .done parsed) ∧ StoredSoFar s.sync.store last

variable {s t : WatchState} {action : WatchAction}

omit [ExternalCalls] [YamlCalls] [SchemaCasts] in
/-- Only the last sync can take a step. -/
theorem is_last_of_moves {earlier : List SyncPhase} {last phase : SyncPhase} {i : ℕ}
    (hearlier : ∀ phase ∈ earlier, ∃ parsed, phase = .done parsed)
    (hphase : (earlier ++ [last])[i]? = some phase) (hmoves : ∀ parsed, phase ≠ .done parsed)
    (next : SyncPhase) : phase = last ∧ (earlier ++ [last]).set i next = earlier ++ [next] := by
  obtain ⟨-, hlast, hset⟩ | ⟨-, hmem, -⟩ := @set_concat _ _ _ next _ hphase
  · exact ⟨hlast, hset⟩
  · obtain ⟨parsed, hdone⟩ := hearlier phase hmem
    exact absurd hdone (hmoves parsed)

/-- A step of the last sync goes on with its work. -/
theorem stored_so_far_own_step {sync sync' : SyncState} {own : SyncAction}
    {earlier : List SyncPhase} {last : SyncPhase} (hown : own.IsOwn)
    (haccepted : ∀ i j, own ≠ .rejectUpsert i j) (hstep : SyncStep sync own sync')
    (hsyncs : sync.syncs = earlier ++ [last])
    (hearlier : ∀ phase ∈ earlier, ∃ parsed, phase = .done parsed)
    (hstored : StoredSoFar sync.store last) :
    ∃ last', sync'.syncs = earlier ++ [last'] ∧ StoredSoFar sync'.store last' := by
  cases hstep with
  | editDirectory directory => exact absurd hown id
  | startSync => exact absurd hown id
  | readDirectory i hphase =>
      rw [hsyncs] at hphase
      obtain ⟨-, hset⟩ := is_last_of_moves hearlier hphase nofun
        (.upserting (loadAllConfigs sync.directory) (loadAllConfigs sync.directory))
      exact ⟨.upserting (loadAllConfigs sync.directory) (loadAllConfigs sync.directory),
        hsyncs ▸ hset, sync.store, [], .refl _, rfl⟩
  | upsert i j phase config store hphase hpending hupsert =>
      rw [hsyncs] at hphase
      have hmoves : ∀ parsed, phase ≠ .done parsed := by
        rintro parsed rfl
        cases hpending
      obtain ⟨rfl, hset⟩ := is_last_of_moves hearlier hphase hmoves (phase.erasePending j)
      refine ⟨_, hsyncs ▸ hset, ?_⟩
      cases phase with
      | upserting parsed pending =>
          obtain ⟨before, order, hperm, horder⟩ := hstored
          obtain ⟨hj, hconfig⟩ :=
            List.getElem?_eq_some_iff.mp (show pending[j]? = some config from hpending)
          have hpermPending : (config :: pending.eraseIdx j).Perm pending :=
            hconfig ▸ List.getElem_cons_eraseIdx_perm hj
          refine ⟨before, order ++ [config], ?_, ?_⟩
          · rw [List.append_assoc]
            exact (hpermPending.append_left order).trans hperm
          · rw [List.foldlM_append, horder]
            show (upsertConfig sync.store config).bind some = some store
            rw [hupsert]
            rfl
      | rejected pending => exact hstored.elim
      | reading => cases hpending
      | clearing parsed => cases hpending
      | done parsed => cases hpending
  | rejectUpsert i j phase config hphase hpending hupsert => exact absurd rfl (haccepted i j)
  | removeStale i parsed hphase =>
      rw [hsyncs] at hphase
      obtain ⟨rfl, hset⟩ := is_last_of_moves hearlier hphase nofun (.clearing parsed)
      refine ⟨_, hsyncs ▸ hset, ?_⟩
      obtain ⟨before, order, hperm, horder⟩ := hstored
      rw [List.append_nil] at hperm
      exact ⟨before, sync.store, order, hperm, horder, rfl⟩
  | clearCache i parsed hphase =>
      rw [hsyncs] at hphase
      obtain ⟨rfl, hset⟩ := is_last_of_moves hearlier hphase nofun (.done parsed)
      exact ⟨.done parsed, (congrArg (·.set i (.done parsed)) hsyncs).trans hset, hstored⟩
  | cacheHit key entry hentry => exact ⟨last, hsyncs, hstored⟩
  | cacheMiss key hentry => exact ⟨last, hsyncs, hstored⟩
  | findOne i key hlookup => exact ⟨last, hsyncs, hstored⟩
  | setCache i key config hlookup => exact ⟨last, hsyncs, hstored⟩

omit [ExternalCalls] [YamlCalls] in
/-- A sync that is over has stored what it has parsed. -/
theorem done_of_is_over {store : ConfigStore} {phase : SyncPhase} (hover : phase.IsOver)
    (hstored : StoredSoFar store phase) :
    ∃ parsed, phase = .done parsed ∧ HoldsParsed parsed store := by
  cases phase with
  | reading => exact absurd trivial hover.1
  | upserting parsed pending => exact absurd trivial hover.1
  | clearing parsed => exact absurd trivial hover.1
  | done parsed => exact ⟨parsed, rfl, hstored⟩
  | rejected pending => exact hstored.elim

theorem store_invariant_step (hinv : StoreInvariant s) (hallowed : OneAtATime s action)
    (hstep : WatchStep s action t) : StoreInvariant t := by
  obtain ⟨hwatch, earlier, last, hsyncs, hearlier, hstored⟩ := hinv
  refine ⟨watch_invariant_step hwatch hstep, ?_⟩
  cases hstep with
  | passTime ms => exact ⟨earlier, last, hsyncs, hearlier, hstored⟩
  | edit directory hpath => exact ⟨earlier, last, hsyncs, hearlier, hstored⟩
  | startWatcher parsed hwatching hdestroyed hdone =>
      exact ⟨earlier, last, hsyncs, hearlier, hstored⟩
  | notice filename hwatching => exact ⟨earlier, last, hsyncs, hearlier, hstored⟩
  | scheduledSync hdue =>
      refine ⟨earlier ++ [last], .reading, congrArg (· ++ [.reading]) hsyncs,
        fun phase hphase => ?_, trivial⟩
      obtain hbefore | hlast := List.mem_append.mp hphase
      · exact hearlier phase hbefore
      · rw [List.mem_singleton.mp hlast]
        obtain ⟨parsed, hdone, -⟩ := done_of_is_over
          (hallowed last (hsyncs ▸ List.mem_append_right _ List.mem_cons_self)) hstored
        exact ⟨parsed, hdone⟩
  | onModuleDestroy => exact ⟨earlier, last, hsyncs, hearlier, hstored⟩
  | sync own sync hown hsync =>
      obtain ⟨last', hsyncs', hstored'⟩ := stored_so_far_own_step hown
        (fun i j h => by rw [h] at hallowed; exact hallowed) hsync hsyncs hearlier hstored
      exact ⟨earlier, last', hsyncs', hearlier, hstored'⟩

theorem HoldsParsed.syncs_from_disk {directory : ConfigsDirectory} {parsed : List DeviceConfig}
    {store : ConfigStore} (h : HoldsParsed parsed store)
    (hperm : parsed.Perm (loadAllConfigs directory)) :
    ∃ before, SyncsFromDisk directory before store := by
  obtain ⟨before, upserted, order, horder, hupserts, rfl⟩ := h
  refine ⟨before, order, horder.trans hperm, upserted, hupserts, ?_⟩
  have hkeys : (parsed.map (·.key)).Perm ((loadAllConfigs directory).map (·.key)) := hperm.map _
  unfold removeStaleConfigs
  rw [List.Perm.isEmpty_eq hkeys]
  split_ifs
  · rfl
  · congr 1
    funext config
    rw [List.Perm.contains_eq hkeys]

/-- Nothing is under way and nothing was missed: the hub is not shut down, what was edited before
the watcher was on has been read, the watcher has told of all config files, the timer is not set,
and every sync is over. -/
structure Settled (s : WatchState) : Prop where
  running : s.destroyed = false
  read : s.missed = false
  noticed : ∀ filename ∈ s.notices, isWatched filename = false
  timer : s.timer.due = none
  syncs : ∀ phase ∈ s.sync.syncs, phase.IsOver

omit [SchemaCasts] in
/-- The last sync of a settled hub has read what the directory holds, or was rejected. -/
theorem WatchInvariant.last_read (hinv : WatchInvariant s) (hsettled : Settled s)
    {earlier : List SyncPhase} {last : SyncPhase} (hsyncs : s.sync.syncs = earlier ++ [last]) :
    (∃ pending, last = .rejected pending) ∨
      ∃ parsed, last = .done parsed ∧ parsed.Perm (loadAllConfigs s.sync.directory) := by
  obtain ⟨earlier', last', hsyncs', -, hread⟩ := hinv.last
  obtain ⟨rfl, hlast⟩ := List.append_inj' (hsyncs'.symm.trans hsyncs) rfl
  obtain rfl : last' = last := List.singleton_inj.mp hlast
  have hover := hsettled.syncs last' (hsyncs ▸ List.mem_append_right _ List.mem_cons_self)
  obtain hupToDate | hdue | ⟨filename, hnotice, hwatched⟩ := hread hsettled.running hsettled.read
  · obtain rfl | hrejected | ⟨parsed, hparsed, hperm⟩ := hupToDate
    · exact absurd trivial hover.1
    · exact .inl hrejected
    · cases last' with
      | done done =>
          cases hparsed
          exact .inr ⟨_, rfl, hperm⟩
      | reading => cases hparsed
      | upserting done pending => exact absurd trivial hover.1
      | clearing done => exact absurd trivial hover.1
      | rejected pending => cases hparsed
  · exact absurd hsettled.timer hdue
  · rw [hsettled.noticed filename hnotice] at hwatched
    cases hwatched

/-- The last sync has read what the directory holds, whatever happened at once, unless an edit was
missed or one of its configs was rejected. -/
theorem last_sync_reads_directory {start : ConfigsDirectory} {store : ConfigStore} {now : ℕ}
    (h : Reaches WatchStep anyAction (WatchState.start start store now) s) (hsettled : Settled s) :
    ∃ earlier last, s.sync.syncs = earlier ++ [last] ∧
      ((∃ pending, last = .rejected pending) ∨
        ∃ parsed, last = .done parsed ∧ parsed.Perm (loadAllConfigs s.sync.directory)) := by
  have hinv := watch_invariant_of_run h
  obtain ⟨earlier, last, hsyncs, -⟩ := hinv.last
  exact ⟨earlier, last, hsyncs, hinv.last_read hsettled hsyncs⟩

/-- Every notice of a config file is followed by a sync, at the earliest after the delay. There is
one sync for a burst of notices: none starts while they keep coming, and none starts without a
notice since the one before it. -/
theorem syncs_are_debounced {start : ConfigsDirectory} {store : ConfigStore} {now : ℕ}
    (h : Reaches WatchStep anyAction (WatchState.start start store now) s) :
    s.sync.syncs.length = s.timer.fires.length + 1 ∧
    (s.destroyed = false → s.timer.due = none → ∀ noticed ∈ s.timer.events,
      ∃ started ∈ s.timer.fires, noticed + deviceConfigsWatcherDebounceMs ≤ started) ∧
    (∀ started ∈ s.timer.fires, ∀ noticed ∈ s.timer.events,
      noticed + deviceConfigsWatcherDebounceMs ≤ started ∨ started ≤ noticed) ∧
    (∀ started ∈ s.timer.fires, ∃ noticed ∈ s.timer.events,
      noticed + deviceConfigsWatcherDebounceMs ≤ started) ∧
    s.timer.fires.Pairwise fun earlier later => ∃ noticed ∈ s.timer.events,
      earlier ≤ noticed ∧ noticed + deviceConfigsWatcherDebounceMs ≤ later := by
  have hinv := watch_invariant_of_run h
  obtain ⟨earlier, last, hsyncs, hlength, -⟩ := hinv.last
  refine ⟨?_, hinv.answered, hinv.timer.quiet, hinv.timer.caused, hinv.timer.separate⟩
  rw [hsyncs, List.length_append, hlength]
  rfl

/-- Once nothing is under way the store holds what the directory holds, if no edit was missed: the
keys of its configs and, where these are distinct, what the schema makes of its configs. -/
theorem store_follows_directory {start : ConfigsDirectory} {store : ConfigStore} {now : ℕ}
    (h : Reaches WatchStep OneAtATime (WatchState.start start store now) s) (hsettled : Settled s) :
    (∀ key, (∃ config ∈ s.sync.store, config.key = key) ↔
      key ∈ (loadAllConfigs s.sync.directory).map (·.key)) ∧
    (((loadAllConfigs s.sync.directory).map (·.key)).Nodup → ∀ config,
      config ∈ s.sync.store ↔
        ∃ parsed ∈ loadAllConfigs s.sync.directory, storedConfig parsed = some config) := by
  obtain ⟨hwatch, earlier, last, hsyncs, -, hstored⟩ : StoreInvariant s :=
    h.invariant ⟨watch_invariant_of_run .refl, [], .reading, rfl, nofun, trivial⟩
      fun s action t hinv hallowed hstep => store_invariant_step hinv hallowed hstep
  have hmem : last ∈ s.sync.syncs := hsyncs ▸ List.mem_append_right _ List.mem_cons_self
  obtain ⟨parsed, rfl, hholds⟩ := done_of_is_over (hsettled.syncs last hmem) hstored
  have hperm : parsed.Perm (loadAllConfigs s.sync.directory) := by
    obtain ⟨pending, hrejected⟩ | ⟨read, hdone, hperm⟩ := hwatch.last_read hsettled hsyncs
    · cases hrejected
    · cases hdone
      exact hperm
  obtain ⟨before, hsynced⟩ := hholds.syncs_from_disk hperm
  exact (syncs_from_disk_spec hsynced).2

end Stored

/-! ## A new file -/

section NewFile

local instance watchedCalls : ExternalCalls := .unused
local instance watchedYaml : YamlCalls :=
  .reading ⟨plugDocument [switchItem], switch_document_unique⟩
local instance watchedCasts : SchemaCasts := .documented

/-- The hub has started with an empty directory, and then the file of the switch was added. -/
def switchAdded : WatchState where
  sync :=
    { SyncState.start switchDirectory switchStore with
      syncs := [.done [], .done [switchConfig]] }
  timer := { now := 2000, events := [0], fires := [2000] }
  watching := true

theorem reaches_switch_added (allowed : WatchState → WatchAction → Prop)
    (hother : ∀ s action, action ≠ .scheduledSync → (∀ i j, action ≠ .sync (.rejectUpsert i j)) →
      allowed s action)
    (hscheduled : ∀ s, s.sync.syncs = [.done []] → allowed s .scheduledSync) :
    Reaches WatchStep allowed (WatchState.start emptyDirectory .empty 0) switchAdded := by
  refine .tail (.tail (.tail (.tail (.tail (.tail (.tail (.tail (.tail (.tail (.tail (.tail .refl
    ⟨.sync (.readDirectory 0), ?_, .sync _ _ _ trivial (.readDirectory _ 0 rfl)⟩)
    ⟨.sync (.removeStale 0), ?_, .sync _ _ _ trivial (.removeStale _ 0 _ rfl)⟩)
    ⟨.sync (.clearCache 0), ?_, .sync _ _ _ trivial (.clearCache _ 0 _ rfl)⟩)
    ⟨.startWatcher, ?_, .startWatcher _ _ rfl rfl rfl⟩)
    ⟨.edit switchDirectory, ?_, .edit _ _ rfl⟩)
    ⟨.notice "shelly.yaml", ?_, .notice _ _ rfl⟩)
    ⟨.passTime 2000, ?_, .passTime _ _⟩)
    ⟨.scheduledSync, ?_, .scheduledSync _ ⟨2000, rfl, le_rfl⟩⟩)
    ⟨.sync (.readDirectory 1), ?_, .sync _ _ _ trivial (.readDirectory _ 1 rfl)⟩)
    ⟨.sync (.upsert 1 0), ?_, .sync _ _ _ trivial (.upsert _ 1 0 _ _ _ rfl rfl rfl)⟩)
    ⟨.sync (.removeStale 1), ?_, .sync _ _ _ trivial (.removeStale _ 1 _ rfl)⟩)
    ⟨.sync (.clearCache 1), ?_, .sync _ _ _ trivial (.clearCache _ 1 _ rfl)⟩
  all_goals first | exact hscheduled _ rfl | exact hother _ _ nofun nofun

theorem settled_switch_added : Settled switchAdded := by
  refine ⟨rfl, rfl, nofun, rfl, fun phase hphase => ?_⟩
  obtain rfl | hlast := List.mem_cons.mp hphase
  · exact ⟨id, rfl⟩
  · rw [List.mem_singleton.mp hlast]
    exact ⟨id, rfl⟩

theorem last_sync_reads_directory_switch :
    ∃ earlier last, switchAdded.sync.syncs = earlier ++ [last] ∧
      ((∃ pending, last = .rejected pending) ∨
        ∃ parsed, last = .done parsed ∧ parsed.Perm (loadAllConfigs switchDirectory)) :=
  last_sync_reads_directory
    (reaches_switch_added anyAction (fun _ _ _ _ => trivial) fun _ _ => trivial)
    settled_switch_added

/-- The file is noticed at the start and read two seconds later. -/
theorem syncs_are_debounced_switch :
    (∀ noticed ∈ switchAdded.timer.events,
      ∃ started ∈ switchAdded.timer.fires, noticed + deviceConfigsWatcherDebounceMs ≤ started) ∧
    ∀ started ∈ switchAdded.timer.fires,
      ∃ noticed ∈ switchAdded.timer.events, noticed + deviceConfigsWatcherDebounceMs ≤ started := by
  obtain ⟨-, hfollowed, -, hcaused, -⟩ := syncs_are_debounced
    (reaches_switch_added anyAction (fun _ _ _ _ => trivial) fun _ _ => trivial)
  exact ⟨hfollowed rfl rfl, hcaused⟩

/-- The config of the switch is stored. -/
theorem store_follows_directory_switch :
    ∃ config ∈ switchStore, config.key = switchConfig.key := by
  refine ((store_follows_directory (reaches_switch_added OneAtATime ?_ ?_)
    settled_switch_added).1 switchConfig.key).mpr (List.mem_singleton_self _)
  · intro s action hscheduled hreject
    cases action with
    | scheduledSync => exact absurd rfl hscheduled
    | sync own =>
        cases own with
        | rejectUpsert i j => exact absurd rfl (hreject i j)
        | _ => trivial
    | _ => trivial
  · intro s hsyncs phase hphase
    rw [hsyncs] at hphase
    rw [List.mem_singleton.mp hphase]
    exact ⟨id, rfl⟩

/-- What is added between the first sync and the watcher is missed: nothing is under way, and the
config of the switch is not stored. -/
theorem edit_before_watcher_is_missed :
    ∃ s, Reaches WatchStep OneAtATime (WatchState.start emptyDirectory .empty 0) s ∧
      s.watching = true ∧ s.notices = [] ∧ s.timer.due = none ∧ s.sync.syncs = [.done []] ∧
      s.sync.directory = switchDirectory ∧ s.sync.store.docs = [] := by
  refine ⟨_, .tail (.tail (.tail (.tail (.tail .refl
    ⟨.sync (.readDirectory 0), trivial, .sync _ _ _ trivial (.readDirectory _ 0 rfl)⟩)
    ⟨.edit switchDirectory, trivial, .edit _ _ rfl⟩)
    ⟨.sync (.removeStale 0), trivial, .sync _ _ _ trivial (.removeStale _ 0 _ rfl)⟩)
    ⟨.sync (.clearCache 0), trivial, .sync _ _ _ trivial (.clearCache _ 0 _ rfl)⟩)
    ⟨.startWatcher, trivial, .startWatcher _ _ rfl rfl rfl⟩, rfl, rfl, rfl, rfl, rfl, rfl⟩

end NewFile

end MyHomeHub.ConfigsService
