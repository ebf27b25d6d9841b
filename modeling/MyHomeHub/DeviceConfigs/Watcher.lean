import MyHomeHub.DeviceConfigs.OverlappingSyncs
import MyHomeHub.Library.Debounce

/-!
# Watching the configs directory

The hub syncs the configs once when it starts, and only then starts a watcher. Each notice
of the watcher about a config file sets a timer anew, and the timer starts a sync.

Here users edit the directory at any time. The watcher gives a notice for each file that
an edit has changed, in any order and at any later time, and it may give other notices
too. The syncs take their steps in between, several of them at once if it comes to that.
The directory itself exists.
-/

namespace MyHomeHub.ConfigsService

open JavaScript Library ConfigsParser ConfigSchema

deriving instance DecidableEq for DirectoryEntry

/-- `DEVICE_CONFIGS_WATCHER_DEBOUNCE_MS` -/
def deviceConfigsWatcherDebounceMs : ℕ := 2000

/-- The files that the watcher does not ignore. -/
def isWatched (filename : String) : Bool :=
  deviceConfigsFileExtensions.contains (toLowerCase (extname filename))

/-- The names under which two states of the directory differ. -/
def changedNames (before after : ConfigsDirectory) : List String :=
  ((before.entries.filter (· ∉ after.entries)) ++
    (after.entries.filter (· ∉ before.entries))).map (·.name)

/-! ## The steps -/

/-- The syncs, and the watcher with its timer. -/
structure WatchState where
  sync : SyncState
  timer : Debounce
  /-- The watcher is on. -/
  watching : Bool := false
  destroyed : Bool := false
  /-- The changed files that the watcher has still to tell of. -/
  notices : List String := []
  /-- A config file was edited with no watcher on, and has not been read since. -/
  missed : Bool := false

/-- The hub when it starts: the first sync is under way. -/
def WatchState.start (directory : ConfigsDirectory) (store : ConfigStore) (now : ℕ) :
    WatchState where
  sync := { SyncState.start directory store with syncs := [.reading] }
  timer := { now }

/-- What happens in a step. -/
inductive WatchAction where
  | passTime (ms : ℕ)
  | edit (directory : ConfigsDirectory)
  | startWatcher
  | notice (filename : String)
  | scheduledSync
  | onModuleDestroy
  | sync (action : SyncAction)

/-- `scheduleSync`, for a file that is not ignored. -/
def onNotice (timer : Debounce) (filename : String) : Debounce :=
  if isWatched filename then timer.event deviceConfigsWatcherDebounceMs else timer

/-- The last sync reads the directory. -/
def readsLast (s : WatchState) : SyncAction → Bool
  | .readDirectory i => i + 1 = s.sync.syncs.length
  | _ => false

/-- A step that a sync or a lookup takes. -/
def SyncAction.IsOwn : SyncAction → Prop
  | .editDirectory _ | .startSync => False
  | _ => True

section Steps

variable [ExternalCalls] [YamlCalls] [SchemaCasts]

/-- The steps of the users, the watcher, its timer and the syncs. -/
inductive WatchStep : WatchState → WatchAction → WatchState → Prop where
  | passTime (s ms) :
      WatchStep s (.passTime ms) { s with timer := s.timer.wait ms }
  | edit (s directory) :
      directory.path = s.sync.directory.path →
      WatchStep s (.edit directory)
        { s with
          sync := { s.sync with directory }
          notices :=
            if s.watching then s.notices ++ changedNames s.sync.directory directory
            else s.notices
          missed := s.missed ||
            (!s.watching && (changedNames s.sync.directory directory).any isWatched) }
  | startWatcher (s parsed) :
      s.watching = false → s.destroyed = false → s.sync.syncs = [.done parsed] →
      WatchStep s .startWatcher { s with watching := true }
  | notice (s filename) :
      s.watching = true →
      WatchStep s (.notice filename)
        { s with
          notices := s.notices.erase filename
          timer := onNotice s.timer filename }
  | scheduledSync (s) :
      s.timer.IsDue →
      WatchStep s .scheduledSync
        { s with
          timer := s.timer.fire
          sync := { s.sync with syncs := s.sync.syncs ++ [.reading] } }
  | onModuleDestroy (s) :
      WatchStep s .onModuleDestroy
        { s with watching := false, destroyed := true, notices := [], timer := s.timer.cancel }
  | sync (s action sync) :
      action.IsOwn → SyncStep s.sync action sync →
      WatchStep s (.sync action)
        { s with sync, missed := s.missed && !readsLast s action }

end Steps

/-! ## The timer -/

theorem on_notice_of_watched {timer : Debounce} {filename : String}
    (h : isWatched filename = true) :
    onNotice timer filename = timer.event deviceConfigsWatcherDebounceMs :=
  if_pos h

theorem on_notice_of_ignored {timer : Debounce} {filename : String}
    (h : isWatched filename = false) : onNotice timer filename = timer :=
  if_neg (by rw [h]; exact Bool.false_ne_true)

section

variable [ExternalCalls] [YamlCalls] [SchemaCasts] {s t : WatchState} {action : WatchAction}
  {start : ConfigsDirectory} {store : ConfigStore} {now : ℕ}

/-- Every step leaves the timer valid, and it answers every notice while the hub is not shut
down. -/
theorem timer_step (h : s.timer.Valid deviceConfigsWatcherDebounceMs)
    (hanswered : s.destroyed = false → s.timer.Answered deviceConfigsWatcherDebounceMs)
    (hstep : WatchStep s action t) :
    t.timer.Valid deviceConfigsWatcherDebounceMs ∧
      (t.destroyed = false → t.timer.Answered deviceConfigsWatcherDebounceMs) := by
  cases hstep with
  | passTime ms => exact ⟨h.wait, fun ht => (hanswered ht).wait⟩
  | edit directory hpath => exact ⟨h, hanswered⟩
  | startWatcher parsed hwatching hdestroyed hsyncs => exact ⟨h, hanswered⟩
  | notice filename hwatching =>
      cases hwatched : isWatched filename with
      | true =>
          rw [on_notice_of_watched hwatched]
          exact ⟨h.event, fun _ => Debounce.answered_of_event⟩
      | false =>
          rw [on_notice_of_ignored hwatched]
          exact ⟨h, hanswered⟩
  | scheduledSync hdue => exact ⟨h.fire hdue, fun _ => h.answered_of_fire hdue⟩
  | onModuleDestroy => exact ⟨h.cancel, nofun⟩
  | sync action sync hown hsync => exact ⟨h, hanswered⟩

/-! ## The last sync -/

/-- What a sync has read is what the directory holds, unless it has still to read it. A sync that
was rejected stores nothing more. -/
def UpToDate (directory : ConfigsDirectory) (phase : SyncPhase) : Prop :=
  phase = .reading ∨ (∃ pending, phase = .rejected pending) ∨
    ∃ parsed, phase.parsed = some parsed ∧ parsed.Perm (loadAllConfigs directory)

omit [ExternalCalls] [YamlCalls] [SchemaCasts] in
theorem parsed_erase_pending (phase : SyncPhase) (j : ℕ) :
    (phase.erasePending j).parsed = phase.parsed := by
  cases phase <;> rfl

omit [ExternalCalls] [YamlCalls] [SchemaCasts] in
/-- When one of the syncs moves on, the last one does or stays. -/
theorem set_concat {earlier : List SyncPhase} {last phase next : SyncPhase} {i : ℕ}
    (hphase : (earlier ++ [last])[i]? = some phase) :
    (i = earlier.length ∧ phase = last ∧
        (earlier ++ [last]).set i next = earlier ++ [next]) ∨
      (i < earlier.length ∧ phase ∈ earlier ∧
        (earlier ++ [last]).set i next = earlier.set i next ++ [last]) := by
  have hlt := (List.getElem?_eq_some_iff.mp hphase).1
  rw [List.length_append, List.length_singleton] at hlt
  obtain hbefore | rfl := lt_or_eq_of_le (Nat.lt_succ_iff.mp hlt)
  · rw [List.getElem?_append_left hbefore] at hphase
    exact .inr ⟨hbefore, List.mem_of_getElem? hphase, List.set_append_left _ _ hbefore⟩
  · rw [List.getElem?_concat_length] at hphase
    refine .inl ⟨rfl, (Option.some.inj hphase).symm, ?_⟩
    rw [List.set_append_right _ _ le_rfl, Nat.sub_self]
    rfl

/-- A step of a sync or a lookup keeps the last sync up to date, and brings it up to date when it
reads the directory. -/
theorem up_to_date_own_step {sync sync' : SyncState} {own : SyncAction} {earlier : List SyncPhase}
    {last : SyncPhase} (hown : own.IsOwn) (hstep : SyncStep sync own sync')
    (hsyncs : sync.syncs = earlier ++ [last]) :
    sync'.directory = sync.directory ∧
      ∃ earlier' last', sync'.syncs = earlier' ++ [last'] ∧
        earlier'.length = earlier.length ∧
        (UpToDate sync.directory last ∨ own = .readDirectory earlier.length →
          UpToDate sync.directory last') := by
  have hmove {i : ℕ} {phase next : SyncPhase} (hphase : sync.syncs[i]? = some phase)
      (hnext : UpToDate sync.directory phase → UpToDate sync.directory next)
      (hread : own = .readDirectory earlier.length →
        i = earlier.length ∧ UpToDate sync.directory next) :
      ∃ earlier' last', sync.syncs.set i next = earlier' ++ [last'] ∧
        earlier'.length = earlier.length ∧
        (UpToDate sync.directory last ∨ own = .readDirectory earlier.length →
          UpToDate sync.directory last') := by
    rw [hsyncs] at hphase ⊢
    obtain ⟨-, rfl, hset⟩ | ⟨hbefore, -, hset⟩ := @set_concat _ _ _ next _ hphase
    · exact ⟨earlier, next, hset, rfl, fun h => h.elim hnext fun hown => (hread hown).2⟩
    · exact ⟨earlier.set i next, last, hset, List.length_set,
        fun h => h.elim id fun hown => absurd (hread hown).1 hbefore.ne⟩
  cases hstep with
  | editDirectory directory => exact absurd hown id
  | startSync => exact absurd hown id
  | readDirectory i hphase =>
      have hnext : UpToDate sync.directory
          (.upserting (loadAllConfigs sync.directory) (loadAllConfigs sync.directory)) :=
        .inr (.inr ⟨_, rfl, .refl _⟩)
      exact ⟨rfl, hmove hphase (fun _ => hnext) fun h => ⟨SyncAction.readDirectory.inj h, hnext⟩⟩
  | upsert i j phase config store hphase hpending hupsert =>
      refine ⟨rfl, hmove hphase (fun h => ?_) nofun⟩
      obtain rfl | ⟨pending, rfl⟩ | ⟨parsed, hparsed, hperm⟩ := h
      · cases hpending
      · exact .inr (.inl ⟨_, rfl⟩)
      · exact .inr (.inr ⟨parsed, (parsed_erase_pending phase j).trans hparsed, hperm⟩)
  | rejectUpsert i j phase config hphase hpending hupsert =>
      exact ⟨rfl, hmove hphase (fun _ => .inr (.inl ⟨_, rfl⟩)) nofun⟩
  | removeStale i parsed hphase =>
      refine ⟨rfl, hmove hphase (fun h => ?_) nofun⟩
      obtain h | ⟨pending, h⟩ | hparsed := h
      · cases h
      · cases h
      · exact .inr (.inr hparsed)
  | clearCache i parsed hphase =>
      refine ⟨rfl, hmove hphase (fun h => ?_) nofun⟩
      obtain h | ⟨pending, h⟩ | hparsed := h
      · cases h
      · cases h
      · exact .inr (.inr hparsed)
  | cacheHit key entry hentry =>
      exact ⟨rfl, earlier, last, hsyncs, rfl, fun h => h.resolve_right nofun⟩
  | cacheMiss key hentry =>
      exact ⟨rfl, earlier, last, hsyncs, rfl, fun h => h.resolve_right nofun⟩
  | findOne i key hlookup =>
      exact ⟨rfl, earlier, last, hsyncs, rfl, fun h => h.resolve_right nofun⟩
  | setCache i key config hlookup =>
      exact ⟨rfl, earlier, last, hsyncs, rfl, fun h => h.resolve_right nofun⟩

/-! ## Changes of the directory -/

omit [SchemaCasts] in
/-- Directories that differ only in files that are ignored hold the same configs. -/
theorem load_all_configs_perm {before after : ConfigsDirectory} (hpath : after.path = before.path)
    (h : (changedNames before after).any isWatched = false) :
    (loadAllConfigs before).Perm (loadAllConfigs after) := by
  have hnodup (directory : ConfigsDirectory) : (directory.entries.filter isConfigFile).Nodup :=
    (List.Nodup.of_map _ directory.distinct).filter _
  have hwatched (entry : DirectoryEntry) (hfile : isConfigFile entry = true) :
      isWatched entry.name = true :=
    ((Bool.and_eq_true _ _).mp hfile).2
  have hperm : (before.entries.filter isConfigFile).Perm (after.entries.filter isConfigFile) := by
    refine (List.perm_ext_iff_of_nodup (hnodup before) (hnodup after)).mpr fun entry => ?_
    rw [List.mem_filter, List.mem_filter]
    refine and_congr_left fun hfile => ?_
    by_contra hdiffer
    have hname : entry.name ∈ changedNames before after := by
      refine List.mem_map_of_mem (List.mem_append.mpr ?_)
      rw [List.mem_filter, List.mem_filter]
      simp only [decide_eq_true_eq]
      tauto
    rw [List.any_eq_false] at h
    exact h _ hname (hwatched entry hfile)
  unfold loadAllConfigs
  rw [hpath]
  exact hperm.flatMap_right _

omit [SchemaCasts] in
theorem UpToDate.of_perm {before after : ConfigsDirectory} {phase : SyncPhase}
    (hperm : (loadAllConfigs before).Perm (loadAllConfigs after)) (h : UpToDate before phase) :
    UpToDate after phase :=
  h.imp_right (Or.imp_right fun ⟨parsed, hparsed, hread⟩ => ⟨parsed, hparsed, hread.trans hperm⟩)

/-- The last sync is up to date, or something will start another one. -/
def WillRead (s : WatchState) (last : SyncPhase) : Prop :=
  UpToDate s.sync.directory last ∨ s.timer.due ≠ none ∨
    ∃ filename ∈ s.notices, isWatched filename = true

/-- What every run keeps true. -/
structure WatchInvariant (s : WatchState) : Prop where
  timer : s.timer.Valid deviceConfigsWatcherDebounceMs
  answered : s.destroyed = false → s.timer.Answered deviceConfigsWatcherDebounceMs
  last : ∃ earlier last, s.sync.syncs = earlier ++ [last] ∧
    earlier.length = s.timer.fires.length ∧
    (s.destroyed = false → s.missed = false → WillRead s last)

theorem watch_invariant_step (hinv : WatchInvariant s) (hstep : WatchStep s action t) :
    WatchInvariant t := by
  obtain ⟨htimer, hanswered⟩ := timer_step hinv.timer hinv.answered hstep
  obtain ⟨earlier, last, hsyncs, hlength, hread⟩ := hinv.last
  refine ⟨htimer, hanswered, ?_⟩
  cases hstep with
  | passTime ms => exact ⟨earlier, last, hsyncs, hlength, hread⟩
  | edit directory hpath =>
      refine ⟨earlier, last, hsyncs, hlength, fun hdestroyed hmissed => ?_⟩
      obtain ⟨hnotMissed, hnotBlind⟩ := Bool.or_eq_false_iff.mp hmissed
      have hbefore := hread hdestroyed hnotMissed
      cases hchanged : (changedNames s.sync.directory directory).any isWatched with
      | false =>
          obtain hupToDate | hdue | ⟨filename, hnotice, hwatched⟩ := hbefore
          · exact .inl (hupToDate.of_perm (load_all_configs_perm hpath hchanged))
          · exact .inr (.inl hdue)
          · refine .inr (.inr ⟨filename, ?_, hwatched⟩)
            show filename ∈ if s.watching then _ else _
            split_ifs
            · exact List.mem_append_left _ hnotice
            · exact hnotice
      | true =>
          -- the watcher is on, so it will tell of the file
          have hwatching : s.watching = true := by
            rw [hchanged, Bool.and_true, Bool.not_eq_false'] at hnotBlind
            exact hnotBlind
          obtain ⟨filename, hname, hwatched⟩ := List.any_eq_true.mp hchanged
          refine .inr (.inr ⟨filename, ?_, hwatched⟩)
          show filename ∈ if s.watching then _ else _
          rw [if_pos hwatching]
          exact List.mem_append_right _ hname
  | startWatcher parsed hwatching hdestroyed hdone => exact ⟨earlier, last, hsyncs, hlength, hread⟩
  | notice filename hwatching =>
      refine ⟨earlier, last, hsyncs, ?_, fun hdestroyed hmissed => ?_⟩
      · show _ = (onNotice s.timer filename).fires.length
        cases hwatched : isWatched filename with
        | true => rw [on_notice_of_watched hwatched]; exact hlength
        | false => rw [on_notice_of_ignored hwatched]; exact hlength
      · cases hwatched : isWatched filename with
        | true =>
            refine .inr (.inl ?_)
            show (onNotice s.timer filename).due ≠ none
            rw [on_notice_of_watched hwatched]
            exact nofun
        | false =>
            obtain hupToDate | hdue | ⟨other, hnotice, hother⟩ := hread hdestroyed hmissed
            · exact .inl hupToDate
            · refine .inr (.inl ?_)
              show (onNotice s.timer filename).due ≠ none
              rw [on_notice_of_ignored hwatched]
              exact hdue
            · have hne : other ≠ filename := by
                rintro rfl
                rw [hwatched] at hother
                cases hother
              exact .inr (.inr ⟨other, (List.mem_erase_of_ne hne).mpr hnotice, hother⟩)
  | scheduledSync hdue =>
      refine ⟨earlier ++ [last], .reading, congrArg (· ++ [.reading]) hsyncs, ?_,
        fun _ _ => .inl (.inl rfl)⟩
      show _ = (s.timer.fires ++ [s.timer.now]).length
      rw [List.length_append, List.length_append, hlength]
      rfl
  | onModuleDestroy => exact ⟨earlier, last, hsyncs, hlength, nofun⟩
  | sync own sync hown hsync =>
      obtain ⟨hdirectory, earlier', last', hsyncs', hlength', hlast⟩ :=
        up_to_date_own_step hown hsync hsyncs
      refine ⟨earlier', last', hsyncs', hlength'.trans hlength, fun hdestroyed hmissed => ?_⟩
      have hupToDate (h : UpToDate s.sync.directory last ∨ own = .readDirectory earlier.length) :
          UpToDate sync.directory last' := by
        rw [hdirectory]
        exact hlast h
      cases hreads : readsLast s own with
      | true =>
          refine .inl (hupToDate (.inr ?_))
          cases own with
          | readDirectory i =>
              have hi : i + 1 = s.sync.syncs.length := of_decide_eq_true hreads
              rw [hsyncs, List.length_append, List.length_singleton] at hi
              rw [Nat.succ_injective hi]
          | _ => cases hreads
      | false =>
          have hnotMissed : s.missed = false := by
            rw [hreads, Bool.not_false, Bool.and_true] at hmissed
            exact hmissed
          exact (hread hdestroyed hnotMissed).imp_left fun h => hupToDate (.inl h)

theorem watch_invariant_of_run
    (h : Reaches WatchStep anyAction (WatchState.start start store now) s) : WatchInvariant s := by
  refine h.invariant ⟨Debounce.Valid.start _ _, fun _ _ => nofun, [], .reading, rfl, rfl,
    fun _ _ => .inl (.inl rfl)⟩ fun s action t hinv _ hstep => watch_invariant_step hinv hstep

end

end MyHomeHub.ConfigsService
