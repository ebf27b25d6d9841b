import MyHomeHub.DeviceConfigs.Storing
import MyHomeHub.Library.Collection

/-!
# The device configs service

`device-configs.service`: keeping the stored configs in step with the configs directory.
`syncFromDisk` parses every config file of the directory, upserts the parsed configs in no
particular order, removes the stored configs that were not parsed, and hands the parsed
configs to the listeners of `DeviceConfigsChangedEvent`.

A file that cannot be read, or whose parsing throws, counts as empty. The database itself
is a collection with the unique index of the schema.
-/

namespace MyHomeHub

open JavaScript Library

/-- An entry of the configs directory. The content is absent when it cannot be read. -/
structure DirectoryEntry where
  name : String
  isFile : Bool := true
  content : Option String

/-- The configs directory: its entries have different names. -/
structure ConfigsDirectory where
  path : String
  entries : List DirectoryEntry
  distinct : (entries.map (·.name)).Nodup

/-- The stored configs, with the unique index on brand, type and transport protocol. -/
abbrev ConfigStore := KeyedCollection DeviceConfig DeviceConfig.key

namespace ConfigsService

open ConfigsParser ConfigSchema

/-- `DEVICE_CONFIGS_FILE_EXTENSIONS` -/
def deviceConfigsFileExtensions : List String :=
  [".yaml", ".yml"]

/-- Whether `loadAllConfigs` reads an entry. -/
def isConfigFile (entry : DirectoryEntry) : Bool :=
  entry.isFile && deviceConfigsFileExtensions.contains (toLowerCase (extname entry.name))

/-- `join(configsDir, entry.name)` -/
def join (configsDir name : String) : String :=
  s!"{configsDir}/{name}"

section Functions

variable [ExternalCalls] [YamlCalls]

/-- `loadConfig` -/
def loadConfig (filepath : String) (content : Option String) : List DeviceConfig :=
  match content with
  | none => []
  | some fileContent =>
      match parseFile filepath fileContent with
      | .ok configs => configs
      | .error _ => []

/-- `loadAllConfigs` -/
def loadAllConfigs (directory : ConfigsDirectory) : List DeviceConfig :=
  (directory.entries.filter isConfigFile).flatMap fun entry =>
    loadConfig (join directory.path entry.name) entry.content

variable [SchemaCasts]

omit [ExternalCalls] [YamlCalls] in
/-- `upsertConfig`, or none when the update is rejected. -/
def upsertConfig (store : ConfigStore) (config : DeviceConfig) : Option ConfigStore :=
  (storedConfig config).map store.upsert

omit [ExternalCalls] [YamlCalls] [SchemaCasts] in
/-- `removeStaleConfigs` -/
def removeStaleConfigs (store : ConfigStore) (activeKeys : List DeviceKey) : ConfigStore :=
  if activeKeys.isEmpty then store.filter fun _ => false
  else store.filter fun config => activeKeys.contains config.key

/-- An undisturbed `syncFromDisk` succeeds: all parsed configs were upserted, in some order, and the
stale ones removed. -/
def SyncsFromDisk (directory : ConfigsDirectory) (before after : ConfigStore) : Prop :=
  ∃ order : List DeviceConfig, order.Perm (loadAllConfigs directory) ∧
    ∃ upserted, order.foldlM upsertConfig before = some upserted ∧
      after = removeStaleConfigs upserted ((loadAllConfigs directory).map (·.key))

end Functions

/-! ## Loading a file -/

section Loading

variable [ExternalCalls] [YamlCalls] {filepath fileContent : String}

/-- A file that is parsed holds the parsed configs. -/
theorem load_config_of_ok {configs : List DeviceConfig}
    (h : parseFile filepath fileContent = .ok configs) :
    loadConfig filepath (some fileContent) = configs := by
  simp only [loadConfig, h]

/-- A file whose parsing throws counts as empty. -/
theorem load_config_of_error {error : HubError}
    (h : parseFile filepath fileContent = .error error) :
    loadConfig filepath (some fileContent) = [] := by
  simp only [loadConfig, h]

/-- The configs of a file are built from the blocks it declares. -/
theorem mem_load_config {content : Option String} {config : DeviceConfig} :
    config ∈ loadConfig filepath content ↔ ∃ brand fileContent declared,
      extractBrandFromFilename filepath = some brand ∧ content = some fileContent ∧
      DefaultsChecked fileContent ∧ declared ∈ declaredBlocks fileContent ∧
      buildDeclared brand declared = .ok config := by
  cases content with
  | none =>
      refine iff_of_false List.not_mem_nil fun h => ?_
      obtain ⟨_, _, _, -, hsome, -⟩ := h
      cases hsome
  | some fileContent =>
      cases hbrand : extractBrandFromFilename filepath with
      | none =>
          have hparse : parseFile filepath fileContent = .ok [] := by rw [parseFile, hbrand]
          rw [load_config_of_ok hparse]
          refine iff_of_false List.not_mem_nil fun h => ?_
          obtain ⟨_, _, _, hsome, -⟩ := h
          cases hsome
      | some brand =>
          have hchecked := @parse_file_ok_iff _ _ _ fileContent _ hbrand
          cases hresult : parseFile filepath fileContent with
          | error error =>
              rw [load_config_of_error hresult]
              refine iff_of_false List.not_mem_nil fun h => ?_
              obtain ⟨_, _, _, -, hsame, hdefaults, -⟩ := h
              cases hsame
              obtain ⟨configs, hok⟩ := hchecked.mpr hdefaults
              rw [hresult] at hok
              cases hok
          | ok configs =>
              rw [load_config_of_ok hresult]
              have hdefaults := hchecked.mp ⟨configs, hresult⟩
              rw [parse_file_eq hbrand] at hresult
              rw [mem_results hresult]
              refine ⟨fun h => ?_, fun h => ?_⟩
              · obtain ⟨declared, hmem, hbuild⟩ := h
                exact ⟨brand, fileContent, declared, rfl, rfl, hdefaults, hmem, hbuild⟩
              · obtain ⟨_, _, declared, hsame, hother, -, hmem, hbuild⟩ := h
                cases hsame
                cases hother
                exact ⟨declared, hmem, hbuild⟩

/-- The configs of one file have different keys. -/
theorem load_config_nodup (filepath : String) (content : Option String) :
    ((loadConfig filepath content).map (·.key)).Nodup := by
  cases content with
  | none => exact List.nodup_nil
  | some fileContent =>
      cases hparse : parseFile filepath fileContent with
      | error error =>
          rw [load_config_of_error hparse]
          exact List.nodup_nil
      | ok configs =>
          rw [load_config_of_ok hparse]
          cases hbrand : extractBrandFromFilename filepath with
          | none =>
              rw [parseFile, hbrand] at hparse
              rw [← Except.ok.inj hparse]
              exact List.nodup_nil
          | some brand =>
              rw [parse_file_eq hbrand] at hparse
              let blockKey (block : DeviceType × TransportProtocol) : DeviceKey :=
                ⟨.value brand, .value block.1, .value block.2⟩
              have hkeys : configs.map (·.key) = ((declaredBlocks fileContent).map
                  fun declared => (declared.type, declared.transportProtocol)).map blockKey := by
                rw [List.map_map]
                exact map_results hparse fun declared config hbuild => (build_config_ok hbuild).1
              rw [hkeys]
              refine List.Nodup.map (fun a b hsame => ?_) (declared_blocks_nodup fileContent)
              obtain ⟨-, htype, hprotocol⟩ := DeviceKey.mk.inj hsame
              exact Prod.ext (Optional.value.inj htype) (Optional.value.inj hprotocol)

end Loading

/-! ## The stored configs after a sync -/

section Store

variable [SchemaCasts] {store store' : ConfigStore} {config : DeviceConfig}

/-- A config is stored under its own key. -/
theorem stored_config_key {stored : DeviceConfig} (h : storedConfig config = some stored) :
    stored.key = config.key := by
  simp only [storedConfig, bind, Option.bind_eq_some_iff, pure, Option.some.injEq] at h
  obtain ⟨commands, -, controls, -, measurements, -, rfl⟩ := h
  rfl

omit [SchemaCasts] in
/-- Only the configs with an active key remain. -/
theorem mem_remove_stale {activeKeys : List DeviceKey} :
    config ∈ removeStaleConfigs store activeKeys ↔ config ∈ store ∧ config.key ∈ activeKeys := by
  unfold removeStaleConfigs
  split_ifs with hempty
  · rw [Collection.mem_filter, List.isEmpty_iff.mp hempty]
    simp
  · rw [Collection.mem_filter, List.contains_iff_mem]

/-- The upserts succeed when every config can be stored, and then they store what the schema makes
of the configs. -/
theorem upserts_eq {order : List DeviceConfig}
    (h : order.foldlM upsertConfig store = some store') :
    ∃ stored, order.mapM storedConfig = some stored ∧ store' = store.upsertAll stored ∧
      stored.map (·.key) = order.map (·.key) := by
  induction order generalizing store with
  | nil =>
      cases h
      exact ⟨[], rfl, rfl, rfl⟩
  | cons first rest ih =>
      rw [List.foldlM_cons] at h
      obtain ⟨middle, hmiddle, hrest⟩ := Option.bind_eq_some_iff.mp h
      obtain ⟨stored, hstored, rfl⟩ := Option.map_eq_some_iff.mp hmiddle
      obtain ⟨others, hothers, rfl, hkeys⟩ := ih hrest
      refine ⟨stored :: others, ?_, rfl, ?_⟩
      · rw [List.mapM_cons, hstored, hothers]
        rfl
      · rw [List.map_cons, List.map_cons, hkeys, stored_config_key hstored]

end Store

/-! ## Agreement with the event -/

/-- The parsed configs have different keys, their keys are the stored ones, and each of them is
stored as it is handed to the listeners. -/
structure SyncAgrees (parsed : List DeviceConfig) (after : ConfigStore) : Prop where
  distinct : (parsed.map (·.key)).Nodup
  keys : ∀ key, (∃ config ∈ after, config.key = key) ↔ key ∈ parsed.map (·.key)
  configs : ∀ config ∈ parsed, getConfig after.docs config.key = some config

section Agreement

variable [ExternalCalls] [YamlCalls] [SchemaCasts] {directory : ConfigsDirectory}
  {before after : ConfigStore}

/-- After a sync every parsed config could be stored, and the keys are the parsed ones. If those are
different, the stored configs are what the schema makes of the parsed ones. -/
theorem syncs_from_disk_spec (h : SyncsFromDisk directory before after) :
    (∀ config ∈ loadAllConfigs directory, (storedConfig config).isSome = true) ∧
    (∀ key, (∃ config ∈ after, config.key = key) ↔
      key ∈ (loadAllConfigs directory).map (·.key)) ∧
    (((loadAllConfigs directory).map (·.key)).Nodup → ∀ config,
      config ∈ after ↔ ∃ parsed ∈ loadAllConfigs directory, storedConfig parsed = some config) := by
  obtain ⟨order, hperm, upserted, hupserts, rfl⟩ := h
  obtain ⟨stored, hstored, rfl, hkeys⟩ := upserts_eq hupserts
  have hkeyPerm : (order.map (·.key)).Perm ((loadAllConfigs directory).map (·.key)) :=
    hperm.map _
  refine ⟨fun config hconfig => ?_, fun key => ?_, fun hdistinct config => ?_⟩
  · exact map_m_is_some_iff.mp (Option.isSome_of_mem hstored) config (hperm.mem_iff.mpr hconfig)
  · simp only [mem_remove_stale]
    refine ⟨fun ⟨config, ⟨_, hactive⟩, hkey⟩ => hkey ▸ hactive, fun hactive => ?_⟩
    have hmem : key ∈ stored.map (·.key) := by
      rw [hkeys]
      exact hkeyPerm.mem_iff.mpr hactive
    obtain ⟨config, hconfig, rfl⟩ := Collection.exists_key_upsert_all.mpr (.inl hmem)
    exact ⟨config, ⟨hconfig, hactive⟩, rfl⟩
  · have hstoredKeys : (stored.map (·.key)).Nodup := by
      rw [hkeys]
      exact hkeyPerm.nodup_iff.mpr hdistinct
    have hmaps := map_m_some_iff.mp hstored
    have hresult : config ∈ stored ↔ ∃ parsed ∈ order, storedConfig parsed = some config := by
      rw [← List.mem_map, hmaps, List.mem_map]
      simp
    rw [mem_remove_stale, Collection.mem_upsert_all hstoredKeys, hresult]
    simp only [hperm.mem_iff]
    refine ⟨fun ⟨hmem, hactive⟩ => ?_, fun ⟨parsed, hparsed, hsome⟩ => ?_⟩
    · rcases hmem with hmem | ⟨-, hnot⟩
      · exact hmem
      · rw [hkeys, hkeyPerm.mem_iff] at hnot
        exact absurd hactive hnot
    · refine ⟨.inl ⟨parsed, hparsed, hsome⟩, ?_⟩
      rw [stored_config_key hsome]
      exact List.mem_map_of_mem hparsed

/-- The store agrees with the event exactly when the parsed configs have different keys and the
schema stores each of them as it is. -/
theorem sync_agrees_iff_stored (h : SyncsFromDisk directory before after) :
    SyncAgrees (loadAllConfigs directory) after ↔
      ((loadAllConfigs directory).map (·.key)).Nodup ∧
        ∀ config ∈ loadAllConfigs directory, storedConfig config = some config := by
  obtain ⟨hstorable, hkeys, hmem⟩ := syncs_from_disk_spec h
  refine ⟨fun hagrees => ⟨hagrees.distinct, fun config hconfig => ?_⟩,
    fun ⟨hdistinct, hsame⟩ => ⟨hdistinct, hkeys, fun config hconfig => ?_⟩⟩
  · have hafter : config ∈ after ∧ config.key = config.key :=
      Collection.find_key_iff.mp (hagrees.configs config hconfig)
    obtain ⟨parsed, hparsed, hstored⟩ := (hmem hagrees.distinct config).mp hafter.1
    have hparsedKey : parsed.key = config.key := (stored_config_key hstored).symm
    rwa [List.inj_on_of_nodup_map hagrees.distinct hparsed hconfig hparsedKey] at hstored
  · exact Collection.find_key_iff.mpr
      ⟨(hmem hdistinct config).mpr ⟨config, hconfig, hsame config hconfig⟩, rfl⟩

end Agreement

/-! ## What the directory declares -/

section Declarations

variable [ExternalCalls] [YamlCalls]

/-- An entry of the directory declares a block for a brand: it is a config file of the brand that
can be read, and the defaults in it can be checked. -/
structure Declares (directory : ConfigsDirectory) (entry : DirectoryEntry) (brand : DeviceBrand)
    (declared : DeclaredBlock) : Prop where
  isConfigFile : isConfigFile entry = true
  brand : extractBrandFromFilename (join directory.path entry.name) = some brand
  block : ∃ content, entry.content = some content ∧ DefaultsChecked content ∧
    declared ∈ declaredBlocks content

/-- The files declare every config once, and with fields of the types that the schema asks for. -/
structure DeclaresOnce (directory : ConfigsDirectory) : Prop where
  /-- No two files declare a block for one brand, type and transport protocol. -/
  once : ∀ a ∈ directory.entries, ∀ b ∈ directory.entries, ∀ brand declared other,
    Declares directory a brand declared → Declares directory b brand other →
      declared.type = other.type → declared.transportProtocol = other.transportProtocol → a = b
  /-- The casts of the schema leave the declared fields as they are. -/
  typed : ∀ entry ∈ directory.entries, ∀ brand declared, Declares directory entry brand declared →
    ∀ payloadSection, ∀ raw ∈ rawItems declared.block payloadSection, ∀ type ∈ declaredType raw,
      DeclarationObeys typedShape raw type

variable {directory : ConfigsDirectory} {before after : ConfigStore}

/-- The parsed configs are built from the declared blocks. -/
theorem mem_load_all_configs {config : DeviceConfig} :
    config ∈ loadAllConfigs directory ↔ ∃ entry ∈ directory.entries, ∃ brand declared,
      Declares directory entry brand declared ∧ buildDeclared brand declared = .ok config := by
  simp only [loadAllConfigs, List.mem_flatMap, List.mem_filter, mem_load_config]
  refine exists_congr fun entry => ?_
  refine ⟨fun ⟨⟨hentry, hfile⟩, brand, content, declared, hbrand, hcontent, hchecked, hmem,
    hbuild⟩ => ?_, fun ⟨hentry, brand, declared, hdeclares, hbuild⟩ => ?_⟩
  · exact ⟨hentry, brand, declared, ⟨hfile, hbrand, content, hcontent, hchecked, hmem⟩, hbuild⟩
  · obtain ⟨content, hcontent, hchecked, hmem⟩ := hdeclares.block
    exact ⟨⟨hentry, hdeclares.isConfigFile⟩, brand, content, declared, hdeclares.brand, hcontent,
      hchecked, hmem, hbuild⟩

/-- A declared block is built. -/
theorem exists_build {entry : DirectoryEntry} {brand : DeviceBrand} {declared : DeclaredBlock}
    (h : Declares directory entry brand declared) :
    ∃ config, buildDeclared brand declared = .ok config := by
  obtain ⟨content, -, hchecked, hmem⟩ := h.block
  obtain ⟨configs, hparse⟩ := (parse_file_ok_iff h.brand).mpr hchecked
  rw [parse_file_eq h.brand] at hparse
  obtain ⟨config, -, hbuild⟩ := exists_result hparse hmem
  exact ⟨config, hbuild⟩

/-- The keys of the configs of a config file are those of its blocks. -/
theorem mem_keys_of_file {entry : DirectoryEntry} (hfile : isConfigFile entry = true)
    {key : DeviceKey} :
    key ∈ (loadConfig (join directory.path entry.name) entry.content).map (·.key) ↔
      ∃ brand declared, Declares directory entry brand declared ∧
        key = ⟨.value brand, .value declared.type, .value declared.transportProtocol⟩ := by
  rw [List.mem_map]
  simp only [mem_load_config]
  refine ⟨fun ⟨config, ⟨brand, content, declared, hbrand, hcontent, hchecked, hmem, hbuild⟩,
    hkey⟩ => ?_, fun ⟨brand, declared, hdeclares, hkey⟩ => ?_⟩
  · exact ⟨brand, declared, ⟨hfile, hbrand, content, hcontent, hchecked, hmem⟩,
      hkey ▸ (build_config_ok hbuild).1⟩
  · obtain ⟨config, hbuild⟩ := exists_build hdeclares
    obtain ⟨content, hcontent, hchecked, hmem⟩ := hdeclares.block
    exact ⟨config, ⟨brand, content, declared, hdeclares.brand, hcontent, hchecked, hmem, hbuild⟩,
      hkey ▸ (build_config_ok hbuild).1⟩

/-- The parsed configs have different keys exactly when no two files declare the same one. -/
theorem load_all_configs_nodup_iff :
    ((loadAllConfigs directory).map (·.key)).Nodup ↔
      ∀ a ∈ directory.entries, ∀ b ∈ directory.entries, ∀ brand declared other,
        Declares directory a brand declared → Declares directory b brand other →
          declared.type = other.type → declared.transportProtocol = other.transportProtocol →
            a = b := by
  have hentries : (directory.entries.filter isConfigFile).Nodup :=
    (List.Nodup.of_map _ directory.distinct).sublist List.filter_sublist
  rw [loadAllConfigs, List.map_flatMap, List.nodup_flatMap]
  refine ⟨fun ⟨_, hdisjoint⟩ => ?_, fun honce => ⟨fun entry _ => load_config_nodup _ _, ?_⟩⟩
  · intro a ha b hb brand declared other hdeclares hother htype hprotocol
    by_contra hne
    have hsymm : Std.Symm (Function.onFun List.Disjoint fun entry : DirectoryEntry =>
        (loadConfig (join directory.path entry.name) entry.content).map (·.key)) :=
      ⟨fun _ _ h => h.symm⟩
    have hboth := hdisjoint.forall (List.mem_filter.mpr ⟨ha, hdeclares.isConfigFile⟩)
      (List.mem_filter.mpr ⟨hb, hother.isConfigFile⟩) hne
    refine hboth ((mem_keys_of_file hdeclares.isConfigFile).mpr ⟨brand, declared, hdeclares, rfl⟩)
      ((mem_keys_of_file hother.isConfigFile).mpr ⟨brand, other, hother, ?_⟩)
    rw [htype, hprotocol]
  · refine hentries.pairwise_of_forall_ne fun a ha b hb hne => ?_
    intro key hkey hotherKey
    obtain ⟨haEntry, haFile⟩ := List.mem_filter.mp ha
    obtain ⟨hbEntry, hbFile⟩ := List.mem_filter.mp hb
    obtain ⟨brand, declared, hdeclares, rfl⟩ := (mem_keys_of_file haFile).mp hkey
    obtain ⟨otherBrand, other, hother, hsame⟩ := (mem_keys_of_file hbFile).mp hotherKey
    obtain ⟨hbrand, htype, hprotocol⟩ := DeviceKey.mk.inj hsame
    cases Optional.value.inj hbrand
    exact hne (honce a haEntry b hbEntry brand declared other hdeclares hother
      (Optional.value.inj htype) (Optional.value.inj hprotocol))

variable [SchemaCasts] [LawfulSchemaCasts]

/-- A config that can be stored is stored as it is when the fields of its block have the types of
the schema. -/
theorem stored_as_declared_iff {entry : DirectoryEntry} {brand : DeviceBrand}
    {declared : DeclaredBlock} (hdeclares : Declares directory entry brand declared)
    {config : DeviceConfig} (hbuild : buildDeclared brand declared = .ok config)
    (hstored : (storedConfig config).isSome = true) :
    storedConfig config = some config ↔ ∀ payloadSection,
      ∀ raw ∈ rawItems declared.block payloadSection, ∀ type ∈ declaredType raw,
        DeclarationObeys typedShape raw type := by
  obtain ⟨content, -, -, hmem⟩ := hdeclares.block
  rw [stored_config_eq_self_iff (build_config_strict hbuild) hstored, unchanged_eq]
  refine forall_congr' fun payloadSection => ?_
  obtain ⟨items, hitems, hnormalized⟩ := (build_config_ok hbuild).2 payloadSection
  rw [hitems]
  refine ⟨fun hobey raw hraw type htype => ?_, fun hobey list hlist item hitem => ?_⟩
  · obtain ⟨default, hdefault⟩ := exists_normalized hnormalized hraw htype
    exact (item_obeys_iff typed_shape_allows_absent (unique_keys_of_raw_item hmem hraw)).mp
      (hobey items rfl _ hdefault)
  · cases hlist
    obtain ⟨raw, hraw, hnormal⟩ := (mem_normalize_items hnormalized).mp hitem
    obtain ⟨type, default, htype, -, rfl⟩ := normalize_item_some_iff.mp hnormal
    exact (item_obeys_iff typed_shape_allows_absent (unique_keys_of_raw_item hmem hraw)).mpr
      (hobey raw hraw type htype)

/-- After an undisturbed sync, the store agrees with the event exactly when the files declare every
config once and with fields of the types that the schema asks for. -/
theorem sync_agrees_iff (h : SyncsFromDisk directory before after) :
    SyncAgrees (loadAllConfigs directory) after ↔ DeclaresOnce directory := by
  have hstorable := (syncs_from_disk_spec h).1
  rw [sync_agrees_iff_stored h, load_all_configs_nodup_iff]
  refine ⟨fun ⟨honce, hsame⟩ => ⟨honce, fun entry hentry brand declared hdeclares => ?_⟩,
    fun hdeclared => ⟨hdeclared.once, fun config hconfig => ?_⟩⟩
  · obtain ⟨config, hbuild⟩ := exists_build hdeclares
    have hconfig := mem_load_all_configs.mpr ⟨entry, hentry, brand, declared, hdeclares, hbuild⟩
    exact (stored_as_declared_iff hdeclares hbuild (hstorable config hconfig)).mp
      (hsame config hconfig)
  · obtain ⟨entry, hentry, brand, declared, hdeclares, hbuild⟩ := mem_load_all_configs.mp hconfig
    exact (stored_as_declared_iff hdeclares hbuild (hstorable config hconfig)).mpr
      (hdeclared.typed entry hentry brand declared hdeclares)

end Declarations

/-- A directory with the file of the switch. -/
def switchDirectory : ConfigsDirectory where
  path := "configs/devices"
  entries := [{ name := "shelly.yaml", content := some switchContent }]
  distinct := List.nodup_singleton _

/-- The store that holds the config of the switch only. -/
def switchStore : ConfigStore :=
  removeStaleConfigs (Collection.empty.upsert switchConfig) [switchConfig.key]

theorem sync_agrees_iff_switch :
    SyncAgrees [switchConfig] switchStore := by
  let externalCalls := ExternalCalls.unused
  let yamlCalls := YamlCalls.reading ⟨plugDocument [switchItem], rfl⟩
  let casts := SchemaCasts.documented
  have lawful := SchemaCasts.documented_lawful
  have hsync : SyncsFromDisk switchDirectory .empty switchStore :=
    ⟨[switchConfig], List.Perm.refl _, _, rfl, rfl⟩
  refine (sync_agrees_iff hsync).mpr ⟨?_, ?_⟩
  · intro a ha b hb _ _ _ _ _ _ _
    rw [List.mem_singleton.mp ha, List.mem_singleton.mp hb]
  · intro entry hentry brand declared hdeclares payloadSection raw hraw type htype
    obtain ⟨content, hcontent, -, hmem⟩ := hdeclares.block
    obtain rfl := List.mem_singleton.mp hmem
    cases payloadSection with
    | commands => cases hraw
    | measurements => cases hraw
    | controls =>
        obtain rfl := List.mem_singleton.mp hraw
        cases htype
        exact ⟨.inr ⟨_, rfl⟩, .inr ⟨_, rfl⟩, .inl rfl, .inl rfl, nofun, nofun⟩

/-- The file of a plug that declares nothing. -/
def bareContent : String :=
  "plug:\n  http:\n    controls: []\n"

/-- A YAML parser for the files of the switch and of the bare plug. -/
@[reducible] def twinYaml : YamlCalls where
  load content :=
    if content = switchContent then some ⟨plugDocument [switchItem], rfl⟩
    else some ⟨plugDocument [], rfl⟩

/-- A directory with two files of one brand. -/
def twinDirectory : ConfigsDirectory where
  path := "configs/devices"
  entries := [{ name := "shelly.yaml", content := some switchContent },
    { name := "shelly.yml", content := some bareContent }]
  distinct := by decide

/-- The config of the bare plug. -/
def bareConfig : DeviceConfig :=
  { switchConfig with controls := some [] }

/-- The config of the switch is parsed and handed to the listeners, but the other file of the brand
replaces it in the store. -/
theorem twin_files_disagree :
    ∃ after, @SyncsFromDisk .unused twinYaml .documented twinDirectory .empty after ∧
      ¬ SyncAgrees (@loadAllConfigs .unused twinYaml twinDirectory) after ∧
      getConfig after.docs switchConfig.key = some bareConfig := by
  refine ⟨_, ⟨[switchConfig, bareConfig], List.Perm.refl _, _, rfl, rfl⟩, fun h => ?_, rfl⟩
  have hdistinct := h.distinct
  revert hdistinct
  decide

end ConfigsService

end MyHomeHub
