import MyHomeHub.DeviceConfigs.Service
import MyHomeHub.Library.Runs

/-!
# Overlapping syncs and lookups

`syncFromDisk` and `getConfig` await the file system and the database, and nothing keeps
two of them apart: the watcher starts a sync while another one runs, and devices look
their configs up all the time. Here any number of them run at once. A step is what one of
them does between two awaits, or one operation of the database.

A sync upserts its configs in any order. If one of the upserts is rejected the sync ends
there: its other upserts still arrive, but it removes no stale config and leaves the cache
as it is.
-/

namespace MyHomeHub.ConfigsService

open JavaScript Library ConfigsParser ConfigSchema

/-! ## The state -/

/-- How the language prints an optional member of an enumeration. -/
def optionalText {α : Type} (text : α → String) : Optional α → String
  | .undefined => "undefined"
  | .null => "null"
  | .value a => text a

/-- `hashConfigKey` -/
def hashConfigKey (key : DeviceKey) : String :=
  optionalText DeviceBrand.text key.brand ++ ":" ++
    (optionalText DeviceType.text key.type ++ ":" ++
      optionalText TransportProtocol.text key.transportProtocol)

/-- Where a sync is. -/
inductive SyncPhase where
  /-- It reads and parses the directory. -/
  | reading
  /-- Some upserts of the parsed configs are pending. -/
  | upserting (parsed pending : List DeviceConfig)
  /-- The stale configs are removed, and the cache is still to be cleared. -/
  | clearing (parsed : List DeviceConfig)
  | done (parsed : List DeviceConfig)
  /-- An upsert was rejected, and the others are pending. -/
  | rejected (pending : List DeviceConfig)

/-- Where a call of `getConfig` is that did not find its key in the cache. -/
inductive LookupPhase where
  | querying (key : DeviceKey)
  | caching (key : DeviceKey) (config : Option DeviceConfig)

/-- The directory, the database, the cache and the calls under way. A cached entry can be null. -/
structure SyncState where
  directory : ConfigsDirectory
  store : ConfigStore
  configsCache : String → Option (Option DeviceConfig)
  syncs : List SyncPhase
  lookups : List LookupPhase

/-- Nothing is cached, and no call has been made. -/
def SyncState.start (directory : ConfigsDirectory) (store : ConfigStore) : SyncState :=
  ⟨directory, store, fun _ => none, [], []⟩

/-- `findOne` -/
def findOne (store : ConfigStore) (key : DeviceKey) : Option DeviceConfig :=
  getConfig store.docs key

/-! ## The steps -/

/-- What happens in a step. The numbers say which sync or lookup takes it, and which of its pending
upserts. -/
inductive SyncAction where
  | editDirectory (directory : ConfigsDirectory)
  | startSync
  | readDirectory (sync : Nat)
  | upsert (sync pendingIndex : Nat)
  | rejectUpsert (sync pendingIndex : Nat)
  | removeStale (sync : Nat)
  | clearCache (sync : Nat)
  | getConfig (key : DeviceKey)
  | findOne (lookup : Nat)
  | setCache (lookup : Nat)

/-- The upserts that a sync has still to make, with what is left of it when one is made. -/
def SyncPhase.pending : SyncPhase → List DeviceConfig
  | .upserting _ pending => pending
  | .rejected pending => pending
  | _ => []

/-- A sync without one of its pending upserts. -/
def SyncPhase.erasePending (phase : SyncPhase) (pendingIndex : Nat) : SyncPhase :=
  match phase with
  | .upserting parsed pending => .upserting parsed (pending.eraseIdx pendingIndex)
  | .rejected pending => .rejected (pending.eraseIdx pendingIndex)
  | other => other

section Steps

variable [ExternalCalls] [YamlCalls] [SchemaCasts]

/-- The steps of the calls and of the users of the directory. -/
inductive SyncStep : SyncState → SyncAction → SyncState → Prop where
  | editDirectory (s directory) :
      SyncStep s (.editDirectory directory) { s with directory }
  | startSync (s) :
      SyncStep s .startSync { s with syncs := s.syncs ++ [.reading] }
  | readDirectory (s i) :
      s.syncs[i]? = some .reading →
      SyncStep s (.readDirectory i)
        { s with
          syncs := s.syncs.set i
            (.upserting (loadAllConfigs s.directory) (loadAllConfigs s.directory)) }
  | upsert (s i j phase config store) :
      s.syncs[i]? = some phase → phase.pending[j]? = some config →
      upsertConfig s.store config = some store →
      SyncStep s (.upsert i j) { s with store, syncs := s.syncs.set i (phase.erasePending j) }
  | rejectUpsert (s i j phase config) :
      s.syncs[i]? = some phase → phase.pending[j]? = some config →
      upsertConfig s.store config = none →
      SyncStep s (.rejectUpsert i j)
        { s with syncs := s.syncs.set i (.rejected (phase.pending.eraseIdx j)) }
  | removeStale (s i parsed) :
      s.syncs[i]? = some (.upserting parsed []) →
      SyncStep s (.removeStale i)
        { s with
          store := removeStaleConfigs s.store (parsed.map (·.key))
          syncs := s.syncs.set i (.clearing parsed) }
  | clearCache (s i parsed) :
      s.syncs[i]? = some (.clearing parsed) →
      SyncStep s (.clearCache i)
        { s with configsCache := fun _ => none, syncs := s.syncs.set i (.done parsed) }
  | cacheHit (s key entry) :
      s.configsCache (hashConfigKey key) = some entry →
      SyncStep s (.getConfig key) s
  | cacheMiss (s key) :
      s.configsCache (hashConfigKey key) = none →
      SyncStep s (.getConfig key) { s with lookups := s.lookups ++ [.querying key] }
  | findOne (s i key) :
      s.lookups[i]? = some (.querying key) →
      SyncStep s (.findOne i)
        { s with lookups := s.lookups.set i (.caching key (findOne s.store key)) }
  | setCache (s i key config) :
      s.lookups[i]? = some (.caching key config) →
      SyncStep s (.setCache i)
        { s with
          configsCache := Function.update s.configsCache (hashConfigKey key) (some config)
          lookups := s.lookups.eraseIdx i }

end Steps

/-! ## What is under way -/

/-- A sync has still to clear the cache. -/
def SyncPhase.WillClear : SyncPhase → Prop
  | .reading | .upserting _ _ | .clearing _ => True
  | .done _ | .rejected _ => False

/-- A sync is over. -/
def SyncPhase.IsOver (phase : SyncPhase) : Prop :=
  ¬ phase.WillClear ∧ phase.pending = []

/-- No sync and no lookup is under way. -/
structure Quiet (s : SyncState) : Prop where
  syncs : ∀ phase ∈ s.syncs, phase.IsOver
  lookups : s.lookups = []

end MyHomeHub.ConfigsService
