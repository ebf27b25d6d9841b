import MyHomeHub.DeviceConfigs.Synchronization

/-!
# Two overlapping syncs

The watcher starts a sync whenever the directory has been quiet for a while, also when the
last sync is not over. Each sync removes every config outside its own snapshot, so the
older one can undo what the newer one has done: it can store a config that the newer one
has removed, and it can remove a config that the newer one has stored. Apart from that the
newer sync prevails.
-/

namespace MyHomeHub.ConfigsService

open JavaScript Library ConfigsParser ConfigSchema

/-- The configs that a sync has parsed and was not kept from storing. -/
def SyncPhase.parsed : SyncPhase → Option (List DeviceConfig)
  | .upserting parsed _ => some parsed
  | .clearing parsed => some parsed
  | .done parsed => some parsed
  | .reading => none
  | .rejected _ => none

/-- A sync has removed the stale configs. -/
def SyncPhase.HasRemoved : SyncPhase → Prop
  | .clearing _ | .done _ => True
  | _ => False

/-- A config with the key is stored. -/
def HasKey (store : ConfigStore) (key : DeviceKey) : Prop :=
  ∃ config ∈ store, config.key = key

/-- There are two syncs at most, and the first one does not undo the second one: after the removal
of the second one it upserts no config outside the snapshot of the second one, and it removes its
stale configs only while the second one has still to upsert those of them that it has parsed. -/
def FirstYields (s : SyncState) : SyncAction → Prop
  | .startSync => s.syncs.length < 2
  | .upsert 0 j => ∀ first config second parsed, s.syncs[0]? = some first →
      first.pending[j]? = some config → s.syncs[1]? = some second → second.HasRemoved →
        second.parsed = some parsed → config.key ∈ parsed.map (·.key)
  | .removeStale 0 => ∀ active second parsed, s.syncs[0]? = some (.upserting active []) →
      s.syncs[1]? = some second → second.parsed = some parsed →
        ∀ key ∈ parsed.map (·.key), key ∉ active.map (·.key) →
          key ∈ second.pending.map (·.key)
  | _ => True

/-- What the second sync has achieved: each config it has parsed is pending or stored, and after its
removal no other one is stored. -/
def SecondKept (store : ConfigStore) (second : SyncPhase) : Prop :=
  ∀ parsed, second.parsed = some parsed →
    (∀ key ∈ parsed.map (·.key), key ∈ second.pending.map (·.key) ∨ HasKey store key) ∧
    (second.HasRemoved → ∀ key, HasKey store key → key ∈ parsed.map (·.key))

/-- What a run in which the first sync yields keeps true. -/
structure SyncsInvariant (s : SyncState) : Prop where
  atMostTwo : s.syncs.length ≤ 2
  kept : ∀ second, s.syncs[1]? = some second → SecondKept s.store second

/-! ## The keys of the store -/

section Keys

variable {store : ConfigStore} {key : DeviceKey}

/-- After an upsert the key of the config is stored, and so are the keys from before. -/
theorem has_key_of_upsert [SchemaCasts] {config : DeviceConfig} {store' : ConfigStore}
    (h : upsertConfig store config = some store') :
    HasKey store' key ↔ key = config.key ∨ HasKey store key := by
  obtain ⟨stored, hstored, rfl⟩ := Option.map_eq_some_iff.mp h
  have hall : HasKey (Collection.upsertAll store [stored]) key ↔
      key ∈ [stored].map (·.key) ∨ HasKey store key := Collection.exists_key_upsert_all
  rw [List.map_singleton, List.mem_singleton, stored_config_key hstored] at hall
  exact hall

/-- The removal keeps the active keys. -/
theorem has_key_of_remove_stale {activeKeys : List DeviceKey} :
    HasKey (removeStaleConfigs store activeKeys) key ↔ HasKey store key ∧ key ∈ activeKeys := by
  simp only [HasKey, mem_remove_stale]
  refine ⟨fun ⟨config, ⟨hmem, hactive⟩, hkey⟩ => ?_, fun ⟨⟨config, hmem, hkey⟩, hactive⟩ => ?_⟩
  · exact ⟨⟨config, hmem, hkey⟩, hkey ▸ hactive⟩
  · exact ⟨config, ⟨hmem, hkey ▸ hactive⟩, hkey⟩

end Keys

/-! ## The steps of the two syncs -/

section Steps

variable {store store' : ConfigStore} {second : SyncPhase}

/-- When the first sync stores another key, it is one that the second sync has parsed or may still
remove. -/
theorem SecondKept.of_first_upsert (h : SecondKept store second) {new : DeviceKey}
    (hkeys : ∀ key, HasKey store' key ↔ key = new ∨ HasKey store key)
    (hnew : ∀ parsed, second.HasRemoved → second.parsed = some parsed →
      new ∈ parsed.map (·.key)) : SecondKept store' second := by
  intro parsed hparsed
  obtain ⟨hpending, hstored⟩ := h parsed hparsed
  refine ⟨fun key hkey => ?_, fun hremoved key hkey => ?_⟩
  · rcases hpending key hkey with hpending | hhas
    · exact .inl hpending
    · exact .inr ((hkeys key).mpr (.inr hhas))
  · rcases (hkeys key).mp hkey with rfl | hhas
    · exact hnew parsed hremoved hparsed
    · exact hstored hremoved key hhas

/-- When the first sync removes keys, the second one has still to upsert those it has parsed. -/
theorem SecondKept.of_first_removal (h : SecondKept store second) {activeKeys : List DeviceKey}
    (hkeys : ∀ key, HasKey store' key ↔ HasKey store key ∧ key ∈ activeKeys)
    (hactive : ∀ parsed, second.parsed = some parsed → ∀ key ∈ parsed.map (·.key),
      key ∉ activeKeys → key ∈ second.pending.map (·.key)) : SecondKept store' second := by
  intro parsed hparsed
  obtain ⟨hpending, hstored⟩ := h parsed hparsed
  refine ⟨fun key hkey => ?_, fun hremoved key hkey => ?_⟩
  · by_cases hmem : key ∈ activeKeys
    · rcases hpending key hkey with hpending | hhas
      · exact .inl hpending
      · exact .inr ((hkeys key).mpr ⟨hhas, hmem⟩)
    · exact .inl (hactive parsed hparsed key hkey hmem)
  · exact hstored hremoved key ((hkeys key).mp hkey).1

/-- When the second sync stores a pending config, the other ones are pending or stored. -/
theorem SecondKept.of_second_upsert {parsed pending : List DeviceConfig}
    (h : SecondKept store (.upserting parsed pending)) {j : Nat} {config : DeviceConfig}
    (hconfig : pending[j]? = some config)
    (hkeys : ∀ key, HasKey store' key ↔ key = config.key ∨ HasKey store key) :
    SecondKept store' (.upserting parsed (pending.eraseIdx j)) := by
  intro other hother
  cases hother
  obtain ⟨hpending, -⟩ := h parsed rfl
  refine ⟨fun key hkey => ?_, False.elim⟩
  rcases hpending key hkey with hpending | hhas
  · -- two pending configs can share a key, so the stored one need not be the one that waits
    obtain ⟨waiting, hwaiting, rfl⟩ := List.mem_map.mp hpending
    obtain ⟨hj, hget⟩ := List.getElem?_eq_some_iff.mp hconfig
    rcases List.mem_cons.mp ((List.getElem_cons_eraseIdx_perm hj).mem_iff.mpr hwaiting) with
      hsame | hremaining
    · exact .inr ((hkeys _).mpr (.inl (by rw [hsame, hget])))
    · exact .inl (List.mem_map_of_mem hremaining)
  · exact .inr ((hkeys key).mpr (.inr hhas))

/-- When the second sync removes the stale configs, exactly the parsed ones are stored. -/
theorem SecondKept.of_second_removal {parsed : List DeviceConfig}
    (h : SecondKept store (.upserting parsed []))
    (hkeys : ∀ key, HasKey store' key ↔ HasKey store key ∧ key ∈ parsed.map (·.key)) :
    SecondKept store' (.clearing parsed) := by
  intro other hother
  cases hother
  obtain ⟨hpending, -⟩ := h parsed rfl
  refine ⟨fun key hkey => .inr ?_, fun _ key hkey => ((hkeys key).mp hkey).2⟩
  rcases hpending key hkey with hnone | hhas
  · cases hnone
  · exact (hkeys key).mpr ⟨hhas, hkey⟩

variable [ExternalCalls] [YamlCalls] [SchemaCasts] {s t : SyncState} {action : SyncAction}

omit [ExternalCalls] [YamlCalls] [SchemaCasts] in
/-- There is no third sync. -/
theorem SyncsInvariant.first_or_second (hinv : SyncsInvariant s) {i : Nat} {phase : SyncPhase}
    (hphase : s.syncs[i]? = some phase) : i = 0 ∨ i = 1 := by
  have hlt := (List.getElem?_eq_some_iff.mp hphase).1
  have htwo := hinv.atMostTwo
  omega

omit [ExternalCalls] [YamlCalls] [SchemaCasts] in
/-- A step of the first sync leaves the phase of the second one as it is. -/
theorem SyncsInvariant.of_first (hinv : SyncsInvariant s) {next : SyncPhase}
    (hsyncs : t.syncs = s.syncs.set 0 next)
    (hkept : ∀ second, s.syncs[1]? = some second → SecondKept t.store second) :
    SyncsInvariant t := by
  refine ⟨?_, fun second hsecond => ?_⟩
  · rw [hsyncs, List.length_set]
    exact hinv.atMostTwo
  · rw [hsyncs, List.getElem?_set_ne Nat.zero_ne_one] at hsecond
    exact hkept second hsecond

omit [ExternalCalls] [YamlCalls] [SchemaCasts] in
/-- A step of the second sync brings it to its next phase. -/
theorem SyncsInvariant.of_second (hinv : SyncsInvariant s) {next : SyncPhase}
    (hsyncs : t.syncs = s.syncs.set 1 next) (hkept : SecondKept t.store next) :
    SyncsInvariant t := by
  refine ⟨?_, fun second hsecond => ?_⟩
  · rw [hsyncs, List.length_set]
    exact hinv.atMostTwo
  · rw [hsyncs] at hsecond
    have hlt := (List.getElem?_eq_some_iff.mp hsecond).1
    rw [List.length_set] at hlt
    rw [List.getElem?_set_self hlt] at hsecond
    cases hsecond
    exact hkept

omit [ExternalCalls] [YamlCalls] [SchemaCasts] in
/-- A sync that has not parsed anything, or was kept from storing it, has achieved nothing. -/
theorem SecondKept.of_not_parsed (h : second.parsed = none) : SecondKept store second := by
  intro parsed hparsed
  rw [h] at hparsed
  cases hparsed

/-- A step in which the first sync yields keeps what the second one has achieved. -/
theorem syncs_invariant_step (hinv : SyncsInvariant s) (hallowed : FirstYields s action)
    (hstep : SyncStep s action t) : SyncsInvariant t := by
  cases hstep with
  | editDirectory directory => exact ⟨hinv.atMostTwo, hinv.kept⟩
  | startSync =>
      have hroom : s.syncs.length < 2 := hallowed
      refine ⟨?_, fun second hsecond => ?_⟩
      · show (s.syncs ++ [SyncPhase.reading]).length ≤ 2
        rw [List.length_append, List.length_singleton]
        omega
      · have happended : (s.syncs ++ [SyncPhase.reading])[1]? = some second := hsecond
        rcases List.mem_append.mp (List.mem_of_getElem? happended) with hold | hnew
        · -- the second sync cannot be an old one, as there was room for it
          by_cases hone : 1 < s.syncs.length
          · omega
          · rw [List.getElem?_append_right (Nat.le_of_not_lt hone)] at happended
            have hnew := List.mem_singleton.mp (List.mem_of_getElem? happended)
            exact .of_not_parsed (hnew ▸ rfl)
        · exact .of_not_parsed (List.mem_singleton.mp hnew ▸ rfl)
  | readDirectory i hsync =>
      rcases hinv.first_or_second hsync with rfl | rfl
      · exact hinv.of_first rfl hinv.kept
      · refine hinv.of_second rfl fun parsed hparsed => ?_
        cases hparsed
        exact ⟨fun key hkey => .inl hkey, False.elim⟩
  | upsert i j phase config store hsync hpending hupsert =>
      have hkeys (key : DeviceKey) := @has_key_of_upsert s.store key _ config store hupsert
      rcases hinv.first_or_second hsync with rfl | rfl
      · refine hinv.of_first rfl fun second hsecond => ?_
        refine (hinv.kept second hsecond).of_first_upsert hkeys fun parsed hremoved hparsed => ?_
        exact hallowed phase config second parsed hsync hpending hsecond hremoved hparsed
      · refine hinv.of_second rfl ?_
        -- the other phases have no upsert pending, and a rejected sync has parsed nothing to keep
        cases phase with
        | upserting parsed pending =>
            exact (hinv.kept _ hsync).of_second_upsert hpending hkeys
        | rejected pending => exact .of_not_parsed rfl
        | reading => cases hpending
        | clearing parsed => cases hpending
        | done parsed => cases hpending
  | rejectUpsert i j phase config hsync hpending hreject =>
      rcases hinv.first_or_second hsync with rfl | rfl
      · exact hinv.of_first rfl hinv.kept
      · exact hinv.of_second rfl (.of_not_parsed rfl)
  | removeStale i active hsync =>
      have hkeys (key : DeviceKey) := @has_key_of_remove_stale s.store key (active.map (·.key))
      rcases hinv.first_or_second hsync with rfl | rfl
      · refine hinv.of_first rfl fun second hsecond => ?_
        refine (hinv.kept second hsecond).of_first_removal hkeys fun parsed hparsed => ?_
        exact hallowed active second parsed hsync hsecond hparsed
      · exact hinv.of_second rfl ((hinv.kept _ hsync).of_second_removal hkeys)
  | clearCache i parsed hsync =>
      rcases hinv.first_or_second hsync with rfl | rfl
      · exact hinv.of_first rfl hinv.kept
      · -- `SecondKept` does not tell whether the cache is still to be cleared
        have hkept : SecondKept s.store (.clearing parsed) := hinv.kept _ hsync
        exact hinv.of_second rfl hkept
  | cacheHit key entry hentry => exact hinv
  | cacheMiss key hentry => exact ⟨hinv.atMostTwo, hinv.kept⟩
  | findOne i key hlookup => exact ⟨hinv.atMostTwo, hinv.kept⟩
  | setCache i key config hlookup => exact ⟨hinv.atMostTwo, hinv.kept⟩

/-- In a run of two syncs in which the first one yields to the second one: when both are done and
the second one has parsed the final contents of the directory, the stored keys are exactly the
parsed ones. -/
theorem stored_keys_of_run {directory : ConfigsDirectory} {store : ConfigStore}
    (h : Reaches SyncStep FirstYields (.start directory store) s)
    {first second : List DeviceConfig} (hdone : s.syncs = [.done first, .done second])
    (hfinal : second = loadAllConfigs s.directory) (key : DeviceKey) :
    (∃ config ∈ s.store, config.key = key) ↔
      key ∈ (loadAllConfigs s.directory).map (·.key) := by
  have hstart : SyncsInvariant (.start directory store) := by
    refine ⟨Nat.zero_le 2, fun second hsecond => ?_⟩
    cases hsecond
  have hinv : SyncsInvariant s := h.invariant hstart fun _ _ _ hinv hallowed hstep =>
    syncs_invariant_step hinv hallowed hstep
  obtain ⟨hstored, honly⟩ := hinv.kept (.done second) (by rw [hdone]; rfl) second rfl
  rw [← hfinal]
  refine ⟨fun hkey => honly trivial key hkey, fun hkey => ?_⟩
  rcases hstored key hkey with hnone | hhas
  · cases hnone
  · exact hhas

end Steps

section Switch

local instance overlapCalls : ExternalCalls := .unused
local instance overlapYaml : YamlCalls :=
  .reading ⟨plugDocument [switchItem], switch_document_unique⟩
local instance overlapCasts : SchemaCasts := .documented

theorem stored_keys_of_run_switch :
    (∃ config ∈ switchStore, config.key = switchConfig.key) ↔
      switchConfig.key ∈ (loadAllConfigs switchDirectory).map (·.key) := by
  have hrun : Reaches SyncStep FirstYields (.start switchDirectory .empty)
      { SyncState.start switchDirectory switchStore with
        syncs := [.done [switchConfig], .done [switchConfig]] } := by
    refine .tail (.tail (.tail (.tail (.tail (.tail (.tail (.tail (.tail (.tail .refl
      ⟨.startSync, Nat.zero_lt_two, .startSync _⟩)
      ⟨.startSync, Nat.one_lt_two, .startSync _⟩)
      ⟨.readDirectory 0, trivial, .readDirectory _ 0 rfl⟩)
      ⟨.readDirectory 1, trivial, .readDirectory _ 1 rfl⟩)
      ⟨.upsert 0 0, ?_, .upsert _ 0 0 _ _ _ rfl rfl rfl⟩)
      ⟨.upsert 1 0, trivial, .upsert _ 1 0 _ _ _ rfl rfl rfl⟩)
      ⟨.removeStale 0, ?_, .removeStale _ 0 _ rfl⟩)
      ⟨.removeStale 1, trivial, .removeStale _ 1 _ rfl⟩)
      ⟨.clearCache 0, trivial, .clearCache _ 0 _ rfl⟩)
      ⟨.clearCache 1, trivial, .clearCache _ 1 _ rfl⟩
    · intro first config second parsed hfirst hconfig hsecond hremoved hparsed
      cases hsecond
      exact hremoved.elim
    · intro active second parsed hfirst hsecond hparsed key hkey hstale
      cases hfirst
      cases hsecond
      cases hparsed
      exact absurd hkey hstale
  exact stored_keys_of_run hrun rfl rfl switchConfig.key

/-- A directory without files. -/
def emptyDirectory : ConfigsDirectory :=
  ⟨"configs/devices", [], List.nodup_nil⟩

/-- The first sync has parsed the config of the switch when its file is removed. The second sync
finds no file and removes what is stored, and then the first one stores the config. -/
theorem first_sync_stores_removed_config :
    ∃ s first second, Reaches SyncStep anyAction (.start switchDirectory .empty) s ∧
      s.syncs = [.done first, .done second] ∧ second = loadAllConfigs s.directory ∧
      ¬ ∀ key, (∃ config ∈ s.store, config.key = key) ↔
        key ∈ (loadAllConfigs s.directory).map (·.key) := by
  refine ⟨_, _, _, .tail (.tail (.tail (.tail (.tail (.tail (.tail (.tail (.tail (.tail .refl
    ⟨.startSync, trivial, .startSync _⟩)
    ⟨.readDirectory 0, trivial, .readDirectory _ 0 rfl⟩)
    ⟨.editDirectory emptyDirectory, trivial, .editDirectory _ _⟩)
    ⟨.startSync, trivial, .startSync _⟩)
    ⟨.readDirectory 1, trivial, .readDirectory _ 1 rfl⟩)
    ⟨.removeStale 1, trivial, .removeStale _ 1 _ rfl⟩)
    ⟨.clearCache 1, trivial, .clearCache _ 1 _ rfl⟩)
    ⟨.upsert 0 0, trivial, .upsert _ 0 0 _ _ _ rfl rfl rfl⟩)
    ⟨.removeStale 0, trivial, .removeStale _ 0 _ rfl⟩)
    ⟨.clearCache 0, trivial, .clearCache _ 0 _ rfl⟩, rfl, rfl, fun hkeys => ?_⟩
  have hparsed := (hkeys switchConfig.key).mp ⟨switchConfig, List.mem_singleton_self _, rfl⟩
  cases hparsed

end Switch

end MyHomeHub.ConfigsService
