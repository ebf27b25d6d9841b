import MyHomeHub.DeviceConfigs.Synchronization

/-!
# Cached configs

`getConfig` keeps what it has read for a key, also that there is no config, and a sync
clears the cache once its configs are stored. Two things can leave an entry behind that is
out of date. A sync changes a config after a lookup has read it, and the lookup writes what
it has read to the cache. Or a sync changes a config that is cached, and then one of its
upserts is rejected, so that it never comes to clear the cache.

The history of a run tells when either has happened without a clear of the cache since. It
only watches: every run has a history. While no clear is owed, every cached entry is what
the database holds whenever nothing is under way.
-/

namespace MyHomeHub.ConfigsService

open JavaScript Library ConfigsParser ConfigSchema

/-- What the database holds under a key: the config, or that there is none. -/
def Holds (store : ConfigStore) (key : DeviceKey) (entry : Option DeviceConfig) : Prop :=
  ∀ config, entry = some config ↔ config ∈ store ∧ config.key = key

/-- Every cached entry is what the database holds for its key. -/
def CacheFresh (s : SyncState) : Prop :=
  ∀ key entry, s.configsCache (hashConfigKey key) = some entry → Holds s.store key entry

/-! ## The history -/

/-- What has happened to the lookups and to the cache. -/
structure CacheHistory where
  /-- Of each lookup: a sync has changed the config since the lookup has read it. -/
  overtaken : List Bool
  /-- Of each sync: it has changed a cached config, and the cache was not cleared since. -/
  outdating : Nat → Bool
  /-- An overtaken lookup has written to the cache, or a sync with a rejected upsert has changed a
  cached config, and the cache was not cleared since. -/
  owesClear : Bool

/-- Nothing has happened. -/
def CacheHistory.start : CacheHistory :=
  ⟨[], fun _ => false, false⟩

/-- A sync of which an upsert was rejected. -/
def SyncPhase.isRejected : SyncPhase → Bool
  | .rejected _ => true
  | _ => false

/-- A lookup has read the config of one of the keys. -/
def LookupPhase.hasRead (keys : List DeviceKey) : LookupPhase → Bool
  | .querying _ => false
  | .caching key _ => keys.contains key

/-- Some of the keys have an entry in the cache. -/
def cachesSome (s : SyncState) (keys : List DeviceKey) : Bool :=
  keys.any fun key => (s.configsCache (hashConfigKey key)).isSome

/-- A sync changes the configs of some keys. -/
def CacheHistory.change (history : CacheHistory) (s : SyncState) (sync : Nat)
    (keys : List DeviceKey) : CacheHistory where
  overtaken := List.zipWith (fun lookup overtaken => overtaken || lookup.hasRead keys)
    s.lookups history.overtaken
  outdating := Function.update history.outdating sync
    (history.outdating sync || cachesSome s keys)
  owesClear := history.owesClear ||
    ((s.syncs[sync]?).any SyncPhase.isRejected && cachesSome s keys)

section Recording

variable [ExternalCalls] [YamlCalls] [SchemaCasts]

/-- The keys whose configs an upsert changes: none if the config is stored as it is. -/
def upsertedKeys (s : SyncState) (sync pendingIndex : Nat) : List DeviceKey :=
  match (s.syncs[sync]?).bind (·.pending[pendingIndex]?) with
  | some config =>
      if storedConfig config = findOne s.store config.key then [] else [config.key]
  | none => []

/-- The keys whose configs a sync removes. -/
def removedKeys (s : SyncState) (sync : Nat) : List DeviceKey :=
  match s.syncs[sync]? with
  | some (.upserting parsed []) =>
      (s.store.docs.map (·.key)).filter fun key => !(parsed.map (·.key)).contains key
  | _ => []

/-- The history after a step. -/
def CacheHistory.next (history : CacheHistory) (s : SyncState) : SyncAction → CacheHistory
  | .upsert sync pendingIndex => history.change s sync (upsertedKeys s sync pendingIndex)
  | .removeStale sync => history.change s sync (removedKeys s sync)
  | .rejectUpsert sync _ =>
      { history with owesClear := history.owesClear || history.outdating sync }
  | .clearCache _ => { history with outdating := fun _ => false, owesClear := false }
  | .getConfig key =>
      if (s.configsCache (hashConfigKey key)).isSome then history
      else { history with overtaken := history.overtaken ++ [false] }
  | .setCache lookup =>
      { history with
        overtaken := history.overtaken.eraseIdx lookup
        owesClear := history.owesClear || history.overtaken[lookup]?.getD false }
  | .editDirectory _ | .startSync | .readDirectory _ | .findOne _ => history

/-- A state with the history of the run that has led to it. -/
structure RecordedState where
  state : SyncState
  history : CacheHistory

/-- Nothing is cached, and no call has been made. -/
def RecordedState.start (directory : ConfigsDirectory) (store : ConfigStore) : RecordedState :=
  ⟨.start directory store, .start⟩

/-- The steps with their histories. -/
inductive RecordedStep : RecordedState → SyncAction → RecordedState → Prop where
  | step (r : RecordedState) (action : SyncAction) (t : SyncState) :
      SyncStep r.state action t → RecordedStep r action ⟨t, r.history.next r.state action⟩

/-- Every run has a history. -/
theorem exists_history {directory : ConfigsDirectory} {store : ConfigStore} {s : SyncState}
    (h : Reaches SyncStep anyAction (.start directory store) s) :
    ∃ history, Reaches RecordedStep anyAction (.start directory store) ⟨s, history⟩ := by
  obtain ⟨r, hrun, rfl⟩ := Reaches.recorded RecordedState.state (.start directory store)
    (fun r action t hstep => ⟨_, RecordedStep.step r action t hstep, rfl⟩) h
  exact ⟨r.history, hrun⟩

end Recording

/-! ## The hash of a key -/

/-- A text without the separator ends where the separator is. -/
theorem append_separator_inj {a b c d : String} (ha : ':' ∉ a.toList) (hb : ':' ∉ b.toList)
    (h : a ++ ":" ++ c = b ++ ":" ++ d) : a = b ∧ c = d := by
  have hchars : a.toList ++ ':' :: c.toList = b.toList ++ ':' :: d.toList := by
    have htexts := congrArg String.toList h
    rwa [String.toList_append, String.toList_append, String.toList_append, String.toList_append,
      List.append_assoc, List.append_assoc] at htexts
  have hprefix (x : String) (rest : List Char) (hx : ':' ∉ x.toList) :
      (x.toList ++ ':' :: rest).takeWhile (· ≠ ':') = x.toList := by
    have hne : ∀ y ∈ x.toList, decide (y ≠ ':') = true :=
      fun y hy => decide_eq_true fun hsame => hx (hsame ▸ hy)
    rw [List.takeWhile_append_of_pos hne]
    simp
  have hsame : a.toList = b.toList := by
    rw [← hprefix a c.toList ha, hchars, hprefix b d.toList hb]
  rw [hsame, List.append_cancel_left_eq, List.cons.injEq] at hchars
  exact ⟨String.toList_injective hsame, String.toList_injective hchars.2⟩

/-- Different members have different texts. -/
theorem optional_text_injective {α : Type} {text : α → String}
    (htext : ∀ a b, text a = text b → a = b)
    (hnames : ∀ a, text a ≠ "undefined" ∧ text a ≠ "null") :
    Function.Injective (optionalText text) := by
  have hne : "undefined" ≠ "null" := by decide
  intro a b h
  cases a with
  | undefined =>
      cases b with
      | undefined => rfl
      | null => exact absurd h hne
      | value b => exact absurd h.symm (hnames b).1
  | null =>
      cases b with
      | undefined => exact absurd h hne.symm
      | null => rfl
      | value b => exact absurd h.symm (hnames b).2
  | value a =>
      cases b with
      | undefined => exact absurd h (hnames a).1
      | null => exact absurd h (hnames a).2
      | value b => rw [htext a b h]

/-- Different keys have different hashes. -/
theorem hash_config_key_injective : Function.Injective hashConfigKey := by
  have hbrand (brand : Optional DeviceBrand) :
      ':' ∉ (optionalText DeviceBrand.text brand).toList := by
    cases brand with
    | value b => cases b <;> decide
    | _ => decide
  have htype (type : Optional DeviceType) :
      ':' ∉ (optionalText DeviceType.text type).toList := by
    cases type with
    | value t => cases t <;> decide
    | _ => decide
  intro a b h
  obtain ⟨hbrands, hrest⟩ := append_separator_inj (hbrand a.brand) (hbrand b.brand) h
  obtain ⟨htypes, hprotocols⟩ := append_separator_inj (htype a.type) (htype b.type) hrest
  have hsameBrand := optional_text_injective (fun a b => by cases a <;> cases b <;> decide)
    (fun a => by cases a <;> decide) hbrands
  have hsameType := optional_text_injective (fun a b => by cases a <;> cases b <;> decide)
    (fun a => by cases a <;> decide) htypes
  have hsameProtocol := optional_text_injective (fun a b => by cases a <;> cases b <;> decide)
    (fun a => by cases a <;> decide) hprotocols
  cases a
  cases b
  rw [DeviceKey.mk.injEq]
  exact ⟨hsameBrand, hsameType, hsameProtocol⟩

/-! ## What a step changes -/

section Changes

variable [SchemaCasts] {s : SyncState} {key : DeviceKey} {entry : Option DeviceConfig}
  {store : ConfigStore}

omit [SchemaCasts] in
theorem find_one_iff {config : DeviceConfig} :
    findOne store key = some config ↔ config ∈ store ∧ config.key = key :=
  Collection.find_key_iff

omit [SchemaCasts] in
theorem holds_find_one : Holds store key (findOne store key) :=
  fun _ => find_one_iff

omit [SchemaCasts] in
/-- What the database holds under a key goes by the configs with the key. -/
theorem Holds.of_same {after : ConfigStore} (h : Holds store key entry)
    (hsame : ∀ config : DeviceConfig, config.key = key → (config ∈ after ↔ config ∈ store)) :
    Holds after key entry := by
  intro config
  rw [h config]
  exact and_congr_left fun hkey => (hsame config hkey).symm

/-- An upsert leaves the configs of the other keys, and a config that is stored as it is. -/
theorem mem_upserted_iff {i j : Nat} {phase : SyncPhase} {upserted config : DeviceConfig}
    (hsync : s.syncs[i]? = some phase) (hpending : phase.pending[j]? = some upserted)
    (hupsert : upsertConfig s.store upserted = some store)
    (hkey : config.key ∉ upsertedKeys s i j) : config ∈ store ↔ config ∈ s.store := by
  obtain ⟨stored, hstored, rfl⟩ := Option.map_eq_some_iff.mp hupsert
  have hstoredKey : stored.key = upserted.key := stored_config_key hstored
  rw [Collection.mem_upsert, hstoredKey]
  unfold upsertedKeys at hkey
  rw [hsync, Option.bind_some, hpending] at hkey
  dsimp only at hkey
  by_cases hsame : storedConfig upserted = findOne s.store upserted.key
  · have hmem : stored ∈ s.store := (find_one_iff.mp (hsame.symm.trans hstored)).1
    have hone (hconfig : config ∈ s.store) (hother : config.key = upserted.key) :
        config = stored :=
      Option.some.inj ((find_one_iff.mpr ⟨hconfig, hother⟩).symm.trans (hsame.symm.trans hstored))
    constructor
    · rintro (rfl | ⟨hconfig, -⟩)
      · exact hmem
      · exact hconfig
    · intro hconfig
      by_cases hother : config.key = upserted.key
      · exact .inl (hone hconfig hother)
      · exact .inr ⟨hconfig, hother⟩
  · rw [if_neg hsame, List.mem_singleton] at hkey
    constructor
    · rintro (rfl | ⟨hconfig, -⟩)
      · exact absurd hstoredKey hkey
      · exact hconfig
    · intro hconfig
      exact .inr ⟨hconfig, hkey⟩

omit [SchemaCasts] in
/-- The configs that are not removed are the configs with other keys. -/
theorem mem_kept_iff {i : Nat} {parsed : List DeviceConfig} {config : DeviceConfig}
    (hsync : s.syncs[i]? = some (.upserting parsed []))
    (hkey : config.key ∉ removedKeys s i) :
    config ∈ removeStaleConfigs s.store (parsed.map (·.key)) ↔ config ∈ s.store := by
  rw [mem_remove_stale, and_iff_left_iff_imp]
  intro hconfig
  unfold removedKeys at hkey
  rw [hsync] at hkey
  by_contra hstale
  refine hkey (List.mem_filter.mpr ⟨List.mem_map_of_mem hconfig, ?_⟩)
  rw [Bool.not_eq_true', List.contains_eq_mem, decide_eq_false_iff_not]
  exact hstale

end Changes

/-! ## Fresh entries -/

/-- A sync that has changed a cached config has still to clear the cache. -/
def ClearComes (r : RecordedState) : Prop :=
  ∃ sync phase, r.state.syncs[sync]? = some phase ∧ phase.WillClear ∧
    r.history.outdating sync = true

/-- What the history says of the entries and of what the lookups have read. -/
structure CacheInvariant (r : RecordedState) : Prop where
  lookups : r.history.overtaken.length = r.state.lookups.length
  /-- A lookup that was not overtaken has read what the database holds. -/
  read : ∀ (lookup : Nat) key entry, r.state.lookups[lookup]? = some (.caching key entry) →
    r.history.overtaken[lookup]? = some true ∨ Holds r.state.store key entry
  fresh : r.history.owesClear = true ∨ ClearComes r ∨ CacheFresh r.state

section CacheRuns

variable [ExternalCalls] [YamlCalls] [SchemaCasts] {r : RecordedState} {s t : SyncState}
  {action : SyncAction}

omit [ExternalCalls] [YamlCalls] [SchemaCasts] in
/-- A sync that has still to clear the cache does so after a step of another one. -/
theorem ClearComes.of_set {history : CacheHistory} {sync : Nat} {next : SyncPhase}
    (h : ClearComes ⟨s, history⟩)
    (hnext : ∀ phase, s.syncs[sync]? = some phase → phase.WillClear →
      history.outdating sync = true → next.WillClear)
    (hsyncs : t.syncs = s.syncs.set sync next) : ClearComes ⟨t, history⟩ := by
  obtain ⟨other, phase, hphase, hclear, houtdating⟩ := h
  by_cases hsame : other = sync
  · subst hsame
    refine ⟨other, next, ?_, hnext phase hphase hclear houtdating, houtdating⟩
    show t.syncs[other]? = some next
    rw [hsyncs, List.getElem?_set_self (List.getElem?_eq_some_iff.mp hphase).1]
  · refine ⟨other, phase, ?_, hclear, houtdating⟩
    show t.syncs[other]? = some phase
    rw [hsyncs, List.getElem?_set_ne (Ne.symm hsame)]
    exact hphase

omit [ExternalCalls] [YamlCalls] [SchemaCasts] in
/-- A sync that changes the configs of some keys keeps the invariant: what is read or cached of one
of them is overtaken or outdated. -/
theorem CacheInvariant.change {history : CacheHistory} (hinv : CacheInvariant ⟨s, history⟩)
    {sync : Nat} {phase next : SyncPhase} {keys : List DeviceKey} {store : ConfigStore}
    (hphase : s.syncs[sync]? = some phase)
    (hclears : phase.isRejected = false → phase.WillClear)
    (hnext : phase.WillClear → next.WillClear)
    (hsame : ∀ config : DeviceConfig, config.key ∉ keys → (config ∈ store ↔ config ∈ s.store)) :
    CacheInvariant ⟨{ s with store, syncs := s.syncs.set sync next },
      history.change s sync keys⟩ where
  lookups := by
    show (List.zipWith _ s.lookups history.overtaken).length = s.lookups.length
    rw [List.length_zipWith, hinv.lookups]
    exact Nat.min_self _
  read lookup key entry hlookup := by
    have hlt : lookup < history.overtaken.length := by
      rw [hinv.lookups]
      exact (List.getElem?_eq_some_iff.mp hlookup).1
    show (List.zipWith _ s.lookups history.overtaken)[lookup]? = some true ∨ _
    rw [List.getElem?_zipWith, show s.lookups[lookup]? = _ from hlookup,
      List.getElem?_eq_getElem hlt]
    by_cases hkey : key ∈ keys
    · refine .inl ?_
      simp [LookupPhase.hasRead, hkey]
    · rcases hinv.read lookup key entry hlookup with hovertaken | hholds
      · rw [List.getElem?_eq_getElem hlt, Option.some.injEq] at hovertaken
        refine .inl ?_
        simp [hovertaken]
      · exact .inr (hholds.of_same fun config hconfig => hsame config (hconfig ▸ hkey))
  fresh := by
    have hlt : sync < s.syncs.length := (List.getElem?_eq_some_iff.mp hphase).1
    cases hcached : cachesSome s keys with
    | true =>
        cases hrejected : phase.isRejected with
        | true =>
            refine .inl ?_
            show (history.owesClear || ((s.syncs[sync]?).any _ && cachesSome s keys)) = true
            rw [hphase, Option.any_some, hrejected, hcached]
            exact Bool.or_true _
        | false =>
            have hwill : next.WillClear := hnext (hclears hrejected)
            refine .inr (.inl ⟨sync, next, List.getElem?_set_self hlt, hwill, ?_⟩)
            show Function.update history.outdating sync _ sync = true
            rw [Function.update_self, hcached]
            exact Bool.or_true _
    | false =>
        have howes : (history.change s sync keys).owesClear = history.owesClear := by
          show (history.owesClear || (_ && cachesSome s keys)) = history.owesClear
          rw [hcached, Bool.and_false, Bool.or_false]
        have houtdating : (history.change s sync keys).outdating = history.outdating := by
          show Function.update history.outdating sync (_ || cachesSome s keys) = history.outdating
          rw [hcached, Bool.or_false, Function.update_eq_self]
        rcases hinv.fresh with hfresh | hcomes | hfresh
        · exact .inl (howes.trans hfresh)
        · obtain ⟨other, found, hfound, hclear, hold⟩ := hcomes.of_set
            (t := { s with store, syncs := s.syncs.set sync next }) (fun found hfound hclear _ =>
              hnext (Option.some.inj (hfound.symm.trans hphase) ▸ hclear)) rfl
          exact .inr (.inl ⟨other, found, hfound, hclear, (congrFun houtdating other).trans hold⟩)
        · refine .inr (.inr fun key entry hentry => ?_)
          have hkey : key ∉ keys := by
            intro hmem
            have hnone := List.any_eq_false.mp hcached key hmem
            rw [show s.configsCache (hashConfigKey key) = some entry from hentry] at hnone
            exact hnone rfl
          exact (hfresh key entry hentry).of_same fun config hconfig =>
            hsame config (hconfig ▸ hkey)

omit [ExternalCalls] [YamlCalls] [SchemaCasts] in
/-- A lookup writes to the cache. -/
theorem CacheInvariant.cached {history : CacheHistory} (hinv : CacheInvariant ⟨s, history⟩)
    {lookup : Nat} {key : DeviceKey} {entry : Option DeviceConfig}
    (hlookup : s.lookups[lookup]? = some (.caching key entry)) :
    CacheInvariant ⟨{ s with
        configsCache := Function.update s.configsCache (hashConfigKey key) (some entry)
        lookups := s.lookups.eraseIdx lookup },
      { history with
        overtaken := history.overtaken.eraseIdx lookup
        owesClear := history.owesClear || history.overtaken[lookup]?.getD false }⟩ where
  lookups := by
    have hlengths : history.overtaken.length = s.lookups.length := hinv.lookups
    show (history.overtaken.eraseIdx lookup).length = (s.lookups.eraseIdx lookup).length
    rw [List.length_eraseIdx, List.length_eraseIdx, hlengths]
  read other otherKey otherEntry hother := by
    have hold : s.lookups[if other < lookup then other else other + 1]? =
        some (.caching otherKey otherEntry) := by
      rw [← hother]
      show _ = (s.lookups.eraseIdx lookup)[other]?
      rw [List.getElem?_eraseIdx]
      split <;> rfl
    rcases hinv.read _ otherKey otherEntry hold with hovertaken | hholds
    · refine .inl ?_
      show (history.overtaken.eraseIdx lookup)[other]? = some true
      rw [← hovertaken, List.getElem?_eraseIdx]
      split <;> rfl
    · exact .inr hholds
  fresh := by
    rcases hinv.fresh with howes | hcomes | hfresh
    · refine .inl ?_
      show (history.owesClear || _) = true
      rw [show history.owesClear = true from howes, Bool.true_or]
    · exact .inr (.inl hcomes)
    · rcases hinv.read lookup key entry hlookup with hovertaken | hholds
      · refine .inl ?_
        show (history.owesClear || history.overtaken[lookup]?.getD false) = true
        rw [show history.overtaken[lookup]? = some true from hovertaken]
        exact Bool.or_true _
      · refine .inr (.inr fun other found hfound => ?_)
        have hupdated : Function.update s.configsCache (hashConfigKey key) (some entry)
            (hashConfigKey other) = some found := hfound
        -- the cache knows keys by their hashes, and different keys have different ones
        by_cases hsame : hashConfigKey other = hashConfigKey key
        · rw [hsame, Function.update_self, Option.some.injEq] at hupdated
          rw [← hupdated, hash_config_key_injective hsame]
          exact hholds
        · rw [Function.update_of_ne hsame] at hupdated
          exact hfresh other found hupdated

omit [ExternalCalls] [YamlCalls] [SchemaCasts] in
/-- The lookups and the store stay as they are. -/
theorem CacheInvariant.of_fresh {history : CacheHistory} (hinv : CacheInvariant r)
    (hlookups : t.lookups = r.state.lookups) (hovertaken : history.overtaken = r.history.overtaken)
    (hstore : t.store = r.state.store)
    (hfresh : history.owesClear = true ∨ ClearComes ⟨t, history⟩ ∨ CacheFresh t) :
    CacheInvariant ⟨t, history⟩ where
  lookups := by
    show history.overtaken.length = t.lookups.length
    rw [hlookups, hovertaken]
    exact hinv.lookups
  read lookup key entry hlookup := by
    show history.overtaken[lookup]? = some true ∨ Holds t.store key entry
    rw [hovertaken, hstore]
    exact hinv.read lookup key entry (hlookups ▸ hlookup)
  fresh := hfresh

omit [ExternalCalls] [YamlCalls] [SchemaCasts] in
/-- A lookup starts that has not found its key in the cache. -/
theorem CacheInvariant.missed {history : CacheHistory} (hinv : CacheInvariant ⟨s, history⟩)
    {key : DeviceKey} :
    CacheInvariant ⟨{ s with lookups := s.lookups ++ [.querying key] },
      { history with overtaken := history.overtaken ++ [false] }⟩ where
  lookups := by
    have hlengths : history.overtaken.length = s.lookups.length := hinv.lookups
    show (history.overtaken ++ [false]).length = (s.lookups ++ [LookupPhase.querying key]).length
    rw [List.length_append, List.length_append, hlengths]
    rfl
  read lookup other entry hlookup := by
    have hlengths : history.overtaken.length = s.lookups.length := hinv.lookups
    by_cases hlt : lookup < s.lookups.length
    · rw [List.getElem?_append_left hlt] at hlookup
      refine (hinv.read lookup other entry hlookup).imp_left fun hovertaken => ?_
      exact (List.getElem?_append_left (hlengths ▸ hlt)).trans hovertaken
    · rw [List.getElem?_append_right (Nat.le_of_not_lt hlt)] at hlookup
      cases List.mem_singleton.mp (List.mem_of_getElem? hlookup)
  fresh := hinv.fresh

omit [ExternalCalls] [YamlCalls] [SchemaCasts] in
/-- A lookup reads the database. -/
theorem CacheInvariant.queried {history : CacheHistory} (hinv : CacheInvariant ⟨s, history⟩)
    {lookup : Nat} {key : DeviceKey} :
    CacheInvariant ⟨{ s with lookups := s.lookups.set lookup (.caching key (findOne s.store key)) },
      history⟩ where
  lookups := by
    show history.overtaken.length = (s.lookups.set lookup _).length
    rw [List.length_set]
    exact hinv.lookups
  read other otherKey entry hother := by
    rw [List.getElem?_set] at hother
    split_ifs at hother with hsame
    · cases hother
      exact .inr holds_find_one
    · exact hinv.read other otherKey entry hother
  fresh := hinv.fresh

omit [ExternalCalls] [YamlCalls] [SchemaCasts] in
/-- A sync with a pending upsert was rejected or has still to clear the cache. -/
theorem will_clear_of_pending {phase : SyncPhase} {j : Nat} {config : DeviceConfig}
    (hpending : phase.pending[j]? = some config) (hrejected : phase.isRejected = false) :
    phase.WillClear := by
  cases phase with
  | upserting parsed pending => trivial
  | rejected pending => cases hrejected
  | reading | clearing parsed | done parsed => cases hpending

omit [ExternalCalls] [YamlCalls] [SchemaCasts] in
theorem will_clear_erase_pending {phase : SyncPhase} {j : Nat} (h : phase.WillClear) :
    (phase.erasePending j).WillClear := by
  cases phase with
  | reading | upserting parsed pending | clearing parsed => trivial
  | rejected pending | done parsed => exact h.elim

/-- Every step keeps the invariant. -/
theorem cache_invariant_step (hinv : CacheInvariant r) (hstep : SyncStep r.state action t) :
    CacheInvariant ⟨t, r.history.next r.state action⟩ := by
  obtain ⟨s, history⟩ := r
  cases hstep with
  | editDirectory directory => exact ⟨hinv.lookups, hinv.read, hinv.fresh⟩
  | startSync =>
      refine hinv.of_fresh rfl rfl rfl (hinv.fresh.imp_right (.imp_left ?_))
      rintro ⟨sync, phase, hphase, hclear, houtdating⟩
      have hlt : sync < s.syncs.length := (List.getElem?_eq_some_iff.mp hphase).1
      exact ⟨sync, phase, (List.getElem?_append_left hlt).trans hphase, hclear, houtdating⟩
  | readDirectory i hsync =>
      refine hinv.of_fresh rfl rfl rfl (hinv.fresh.imp_right (.imp_left fun hcomes => ?_))
      have hclear : (SyncPhase.upserting (loadAllConfigs s.directory)
          (loadAllConfigs s.directory)).WillClear := trivial
      exact hcomes.of_set (fun _ _ _ _ => hclear) rfl
  | upsert i j phase config store hsync hpending hupsert =>
      exact hinv.change hsync (will_clear_of_pending hpending) will_clear_erase_pending
        fun other hother => mem_upserted_iff hsync hpending hupsert hother
  | rejectUpsert i j phase config hsync hpending hreject =>
      -- what the sync has outdated is not cleared by it any more
      cases houtdating : history.outdating i with
      | true =>
          refine hinv.of_fresh rfl rfl rfl (.inl ?_)
          show (history.owesClear || history.outdating i) = true
          rw [houtdating]
          exact Bool.or_true _
      | false =>
          refine hinv.of_fresh rfl rfl rfl ?_
          rcases hinv.fresh with howes | hcomes | hfresh
          · refine .inl ?_
            show (history.owesClear || _) = true
            rw [show history.owesClear = true from howes, Bool.true_or]
          · refine .inr (.inl (hcomes.of_set (fun _ _ _ hold => ?_) rfl))
            rw [houtdating] at hold
            cases hold
          · exact .inr (.inr hfresh)
  | removeStale i parsed hsync =>
      exact hinv.change hsync (fun _ => trivial) (fun _ => trivial)
        fun other hother => mem_kept_iff hsync hother
  | clearCache i parsed hsync =>
      -- an empty cache is fresh, whatever the other syncs have still to store
      refine hinv.of_fresh rfl rfl rfl (.inr (.inr fun key entry hentry => ?_))
      cases hentry
  | cacheHit key entry hentry =>
      have hcached : (s.configsCache (hashConfigKey key)).isSome = true :=
        Option.isSome_of_eq_some hentry
      have hsame : history.next s (.getConfig key) = history := if_pos hcached
      show CacheInvariant ⟨s, history.next s (.getConfig key)⟩
      rw [hsame]
      exact hinv
  | cacheMiss key hentry =>
      have hmissed : ¬ (s.configsCache (hashConfigKey key)).isSome = true := by
        rw [show s.configsCache (hashConfigKey key) = none from hentry]
        exact Bool.false_ne_true
      have hnext : history.next s (.getConfig key) =
          { history with overtaken := history.overtaken ++ [false] } := if_neg hmissed
      show CacheInvariant ⟨_, history.next s (.getConfig key)⟩
      rw [hnext]
      exact hinv.missed
  | findOne i key hlookup => exact hinv.queried
  | setCache i key config hlookup => exact hinv.cached hlookup

/-- Whenever nothing is under way and no clear of the cache is owed, every cached entry is what the
database holds. -/
theorem cache_fresh_of_run {directory : ConfigsDirectory} {store : ConfigStore}
    (h : Reaches RecordedStep anyAction (.start directory store) r) (hquiet : Quiet r.state)
    (howes : r.history.owesClear = false) : CacheFresh r.state := by
  have hstart : CacheInvariant (.start directory store) := by
    refine ⟨rfl, fun lookup key entry hlookup => ?_, .inr (.inr fun key entry hentry => ?_)⟩
    · cases hlookup
    · cases hentry
  have hinv : CacheInvariant r := by
    refine h.invariant hstart fun s action t hinv _ hstep => ?_
    cases hstep with
    | step t hstep => exact cache_invariant_step hinv hstep
  rcases hinv.fresh with hcleared | ⟨sync, phase, hphase, hclear, -⟩ | hfresh
  · rw [howes] at hcleared
    cases hcleared
  · exact absurd hclear (hquiet.syncs phase (List.mem_of_getElem? hphase)).1
  · exact hfresh

end CacheRuns

section Switch

local instance switchCalls : ExternalCalls := .unused
local instance switchYaml : YamlCalls :=
  .reading ⟨plugDocument [switchItem], switch_document_unique⟩
local instance switchCasts : SchemaCasts := .documented

/-- A lookup reads that there is no config, and caches it while a sync that has stored the config is
about to clear the cache. The next lookup caches the config. -/
theorem cache_fresh_of_run_switch :
    ∃ r, Reaches RecordedStep anyAction (.start switchDirectory .empty) r ∧ CacheFresh r.state ∧
      r.state.configsCache (hashConfigKey switchConfig.key) = some (some switchConfig) := by
  have hrun : ∃ r, Reaches RecordedStep anyAction (.start switchDirectory .empty) r ∧
      Quiet r.state ∧ r.history.owesClear = false ∧
      r.state.configsCache (hashConfigKey switchConfig.key) = some (some switchConfig) := by
    refine ⟨_, .tail (.tail (.tail (.tail (.tail (.tail (.tail (.tail (.tail (.tail (.tail .refl
      ⟨.getConfig switchConfig.key, trivial, .step _ _ _ (.cacheMiss _ _ rfl)⟩)
      ⟨.findOne 0, trivial, .step _ _ _ (.findOne _ 0 _ rfl)⟩)
      ⟨.startSync, trivial, .step _ _ _ (.startSync _)⟩)
      ⟨.readDirectory 0, trivial, .step _ _ _ (.readDirectory _ 0 rfl)⟩)
      ⟨.upsert 0 0, trivial, .step _ _ _ (.upsert _ 0 0 _ _ _ rfl rfl rfl)⟩)
      ⟨.removeStale 0, trivial, .step _ _ _ (.removeStale _ 0 _ rfl)⟩)
      ⟨.setCache 0, trivial, .step _ _ _ (.setCache _ 0 _ _ rfl)⟩)
      ⟨.clearCache 0, trivial, .step _ _ _ (.clearCache _ 0 _ rfl)⟩)
      ⟨.getConfig switchConfig.key, trivial, .step _ _ _ (.cacheMiss _ _ rfl)⟩)
      ⟨.findOne 0, trivial, .step _ _ _ (.findOne _ 0 _ rfl)⟩)
      ⟨.setCache 0, trivial, .step _ _ _ (.setCache _ 0 _ _ rfl)⟩, ⟨?_, rfl⟩, rfl, rfl⟩
    intro phase hphase
    rw [List.mem_singleton.mp hphase]
    exact ⟨id, rfl⟩
  obtain ⟨r, hreaches, hquiet, howes, hcached⟩ := hrun
  exact ⟨r, hreaches, cache_fresh_of_run hreaches hquiet howes, hcached⟩

/-- A lookup reads the database before a sync stores the config, and caches what it has read after
the sync has cleared the cache. -/
theorem late_lookup_caches_stale_entry :
    ∃ s, Reaches SyncStep anyAction (.start switchDirectory .empty) s ∧ Quiet s ∧
      ¬ CacheFresh s := by
  refine ⟨_, .tail (.tail (.tail (.tail (.tail (.tail (.tail (.tail .refl
    ⟨.getConfig switchConfig.key, trivial, .cacheMiss _ _ rfl⟩)
    ⟨.findOne 0, trivial, .findOne _ 0 _ rfl⟩)
    ⟨.startSync, trivial, .startSync _⟩)
    ⟨.readDirectory 0, trivial, .readDirectory _ 0 rfl⟩)
    ⟨.upsert 0 0, trivial, .upsert _ 0 0 _ _ _ rfl rfl rfl⟩)
    ⟨.removeStale 0, trivial, .removeStale _ 0 _ rfl⟩)
    ⟨.clearCache 0, trivial, .clearCache _ 0 _ rfl⟩)
    ⟨.setCache 0, trivial, .setCache _ 0 _ _ rfl⟩, ⟨?_, rfl⟩, fun hfresh => ?_⟩
  · intro phase hphase
    rw [List.mem_singleton.mp hphase]
    exact ⟨id, rfl⟩
  · have hstored : switchConfig ∈ switchStore := List.mem_singleton_self _
    cases (hfresh switchConfig.key none rfl switchConfig).mpr ⟨hstored, rfl⟩

end Switch

end MyHomeHub.ConfigsService
