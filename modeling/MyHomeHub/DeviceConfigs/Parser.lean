import MyHomeHub.DeviceConfigs.ItemValidators
import MyHomeHub.Library.PartialMaps

/-!
# The device configs parser

`device-configs-parser.service`: from the YAML file of a brand to the device configs it
declares. A file whose name is no brand or that holds no YAML object declares none.
Blocks of unknown types and protocols, and items without a name, a label or a known type,
are skipped, and so are constraints that do not apply and defaults that break the rules of
their own item. Everything else is passed on as it stands in the file.

The YAML parser is a parameter. It refuses a mapping with a repeated key, so what it
returns has unique keys. Dates and binary data, which it can return too, are not modelled.
-/

namespace MyHomeHub

open JavaScript Library

/-- What the YAML parser returns. -/
abbrev YamlDocument := { value : Value // value.hasUniqueKeys = true }

/-- The third-party YAML parser. -/
class YamlCalls where
  /-- `load` of `js-yaml`, or none when it throws. -/
  load : (content : String) → Option YamlDocument

/-- A YAML parser for runs that read one document only. -/
@[reducible] def YamlCalls.reading (document : YamlDocument) : YamlCalls where
  load _ := some document

namespace ConfigsParser

/-! ## File names -/

/-- `basename(path)`: what follows the last slash, except for slashes at the end. -/
def basename (path : List Char) : List Char :=
  ((path.reverse.dropWhile (· = '/')).takeWhile (· ≠ '/')).reverse

/-- A file name in two parts, of which the second is `extname`: it begins at the last dot, unless
the name begins there or is `..`. -/
def splitExtension (name : List Char) : List Char × List Char :=
  let extension := (name.reverse.takeWhile (· ≠ '.')).reverse
  match name.reverse.dropWhile (· ≠ '.') with
  | '.' :: stem =>
      if stem = [] ∨ (stem = ['.'] ∧ extension = []) then (name, [])
      else (stem.reverse, '.' :: extension)
  | _ => (name, [])

/-- `extname(path)` -/
def extname (path : String) : List Char :=
  (splitExtension (basename path.toList)).2

/-- `toLowerCase()`, for ASCII letters: no other letter has a lower case that occurs in a brand or
in an extension of a config file. -/
def toLowerCase (text : List Char) : String :=
  .ofList (text.map Char.toLower)

/-- `toEnumValue` -/
def toEnumValue {α : Type} (values : List α) (text : α → String) (value : Value) : Option α :=
  match value with
  | .string s => values.find? fun member => text member = s
  | _ => none

/-- `extractBrandFromFilename` -/
def extractBrandFromFilename (filePath : String) : Option DeviceBrand :=
  let name := toLowerCase (splitExtension (basename filePath.toList)).1
  toEnumValue DeviceBrand.values DeviceBrand.text (.string name)

/-! ## Items -/

/-- `APPLICABLE_CONSTRAINTS` -/
def applicableConstraints : DeviceConfigItemType → List String
  | .number => ["min", "max", "integer"]
  | .string => ["minLength", "maxLength", "pattern", "format"]
  | .boolean => []
  | .enum => []
  | .object => []

/-- Whether `normalizeConstraints` keeps a constraint. -/
def keepsConstraint (type : DeviceConfigItemType) (constraint : String × Value) : Bool :=
  (applicableConstraints type).contains constraint.1 &&
    (constraint.1 ≠ "format" ||
      (toEnumValue DeviceConfigItemFormat.values DeviceConfigItemFormat.text
        (.string constraint.2.toString)).isSome)

/-- `normalizeConstraints`: the object of the constraints that are kept, if there are any. -/
def normalizeConstraints (rawConstraints : Value) (type : DeviceConfigItemType) :
    Option DeviceConfigItemConstraints :=
  let kept := rawConstraints.entries.filter (keepsConstraint type)
  let constraints := Value.object kept
  if !rawConstraints.isObject || kept.isEmpty then none
  else some {
    min := constraints.property "min"
    max := constraints.property "max"
    integer := constraints.property "integer"
    minLength := constraints.property "minLength"
    maxLength := constraints.property "maxLength"
    pattern := constraints.property "pattern"
    format := constraints.property "format" }

/-- One value of an enum item, or none when it lacks a name or a label. -/
def normalizeItemValue (value : Value) : Option DeviceConfigItemValue :=
  let name := value.property "name"
  let label := value.property "label"
  if value.truthy && name ≠ .undefined && label ≠ .undefined then
    some { label, name := name.toString, path := value.property "path" }
  else none

/-- The values of an item, when it lists any. -/
def normalizeItemValues : Value → Option (List DeviceConfigItemValue)
  | .array values => if values.isEmpty then none else some (values.filterMap normalizeItemValue)
  | _ => none

/-- An item as the file declares it, before its default is checked. -/
def declaredItem (item : Value) (type : DeviceConfigItemType) : DeviceConfigItem where
  label := item.property "label"
  name := item.property "name"
  type := type
  description := item.property "description"
  path := item.property "path"
  required := (item.property "required").strictEq (.bool true)
  constraints := normalizeConstraints (item.property "constraints") type
  values := normalizeItemValues (item.property "values")

section Functions

variable [ExternalCalls]

/-- `normalizeDefault`: the section is only logged. -/
def normalizeDefault (item : DeviceConfigItem) (defaultValue : Value) : Except HubError Value :=
  if defaultValue.isNullish then .ok .undefined
  else do
    match ← validateItemValue item defaultValue with
    | some _ => return .undefined
    | none => return defaultValue

/-- `normalizeItem`: an item without a name, a label or a known type is skipped. -/
def normalizeItem (item : Value) : Except HubError (Option DeviceConfigItem) :=
  if !item.truthy || !(item.property "name").truthy || !(item.property "label").truthy then
    .ok none
  else
    match toEnumValue DeviceConfigItemType.values DeviceConfigItemType.text
        (item.property "type") with
    | none => .ok none
    | some type => do
        let normalized := declaredItem item type
        let default ← normalizeDefault normalized (item.property "default")
        return some { normalized with default }

/-- `normalizeItems` -/
def normalizeItems (items : Value) : Except HubError (List DeviceConfigItem) :=
  match items with
  | .array elements => do
      let normalized ← elements.mapM normalizeItem
      return normalized.reduceOption
  | _ => .ok []

/-! ## Files -/

/-- `buildConfig` -/
def buildConfig (brand : DeviceBrand) (type : DeviceType)
    (transportProtocol : TransportProtocol) (block : Value) : Except HubError DeviceConfig := do
  let commands ← normalizeItems (block.property "commands")
  let controls ← normalizeItems (block.property "controls")
  let measurements ← normalizeItems (block.property "measurements")
  return {
    brand, type, transportProtocol
    strict := some !((block.property "strict").strictEq (.bool false))
    commands := some commands
    controls := some controls
    measurements := some measurements }

/-- The loop over the transport protocols of a device type. -/
def parseProtocols (brand : DeviceBrand) (type : DeviceType) :
    List (String × Value) → Except HubError (List DeviceConfig)
  | [] => .ok []
  | (rawProtocol, block) :: rest =>
      match toEnumValue TransportProtocol.values TransportProtocol.text (.string rawProtocol) with
      | none => parseProtocols brand type rest
      | some transportProtocol => do
          let config ← buildConfig brand type transportProtocol (block.orElse (.object []))
          let configs ← parseProtocols brand type rest
          return config :: configs

/-- The loop over the device types of a file. -/
def parseTypes (brand : DeviceBrand) :
    List (String × Value) → Except HubError (List DeviceConfig)
  | [] => .ok []
  | (rawType, rawProtocols) :: rest =>
      match toEnumValue DeviceType.values DeviceType.text (.string rawType) with
      | none => parseTypes brand rest
      | some type =>
          if !rawProtocols.isObject then parseTypes brand rest
          else do
            let configs ← parseProtocols brand type rawProtocols.entries
            let others ← parseTypes brand rest
            return configs ++ others

variable [YamlCalls]

omit [ExternalCalls] in
/-- `safeParseYaml` -/
def safeParseYaml (content : String) : Option YamlDocument :=
  (YamlCalls.load content).filter fun document => document.1.isObject

/-- `parseFile` -/
def parseFile (filePath fileContent : String) : Except HubError (List DeviceConfig) :=
  match extractBrandFromFilename filePath with
  | none => .ok []
  | some brand =>
      match safeParseYaml fileContent with
      | none => .ok []
      | some parsed => parseTypes brand parsed.1.entries

end Functions

/-! ## What a file declares -/

/-- A block of a file whose type and transport protocol are known. -/
structure DeclaredBlock where
  type : DeviceType
  transportProtocol : TransportProtocol
  block : Value

/-- The blocks of one device type. -/
def protocolBlocks (type : DeviceType) (rawProtocols : List (String × Value)) :
    List DeclaredBlock :=
  rawProtocols.filterMap fun entry =>
    (toEnumValue TransportProtocol.values TransportProtocol.text (.string entry.1)).map
      fun transportProtocol => ⟨type, transportProtocol, entry.2.orElse (.object [])⟩

/-- The blocks of the types of a file. -/
def typeBlocks (entry : String × Value) : List DeclaredBlock :=
  match toEnumValue DeviceType.values DeviceType.text (.string entry.1) with
  | none => []
  | some type => if entry.2.isObject then protocolBlocks type entry.2.entries else []

/-- The blocks a file declares, in their order. -/
def declaredBlocks [YamlCalls] (fileContent : String) : List DeclaredBlock :=
  match safeParseYaml fileContent with
  | none => []
  | some document => document.1.entries.flatMap typeBlocks

/-- The items a block lists under a section. -/
def rawItems (block : Value) (payloadSection : DeviceConfigSection) : List Value :=
  match block.property payloadSection.text with
  | .array elements => elements
  | _ => []

/-- The type of an item that the parser does not skip. -/
def declaredType (item : Value) : Option DeviceConfigItemType :=
  if !item.truthy || !(item.property "name").truthy || !(item.property "label").truthy then none
  else toEnumValue DeviceConfigItemType.values DeviceConfigItemType.text (item.property "type")

/-- A member that is found has the text that was looked for. -/
theorem to_enum_value_text {α : Type} {values : List α} {text : α → String} {s : String}
    {member : α} (h : toEnumValue values text (.string s) = some member) : text member = s := by
  have hfound := List.find?_some (p := fun member => decide (text member = s)) h
  exact of_decide_eq_true hfound

/-- The blocks of a device type have different transport protocols. -/
theorem protocol_blocks_nodup {type : DeviceType} {rawProtocols : List (String × Value)}
    (h : (rawProtocols.map (·.1)).Nodup) :
    ((protocolBlocks type rawProtocols).map fun declared =>
      (declared.type, declared.transportProtocol)).Nodup := by
  induction rawProtocols with
  | nil => exact List.nodup_nil
  | cons entry rest ih =>
      rw [List.map_cons, List.nodup_cons] at h
      rw [protocolBlocks, List.filterMap_cons]
      cases hprotocol : toEnumValue TransportProtocol.values TransportProtocol.text
        (.string entry.1) with
      | none => exact ih h.2
      | some transportProtocol =>
          refine List.nodup_cons.mpr ⟨fun hmem => ?_, ih h.2⟩
          obtain ⟨declared, hdeclared, hsame⟩ := List.mem_map.mp hmem
          obtain ⟨other, hother, hsome⟩ := List.mem_filterMap.mp hdeclared
          obtain ⟨otherProtocol, hotherProtocol, rfl⟩ := Option.map_eq_some_iff.mp hsome
          have hprotocols : otherProtocol = transportProtocol := congrArg Prod.snd hsame
          have htexts : other.1 = entry.1 := by
            rw [← to_enum_value_text hotherProtocol, ← to_enum_value_text hprotocol, hprotocols]
          exact h.1 (htexts ▸ List.mem_map_of_mem hother)

/-- The blocks of an entry have the type it names. -/
theorem type_of_type_blocks {entry : String × Value} {declared : DeclaredBlock}
    (h : declared ∈ typeBlocks entry) : declared.type.text = entry.1 := by
  unfold typeBlocks at h
  split at h
  · cases h
  · rename_i type htype
    split_ifs at h
    · obtain ⟨rawProtocol, -, hsome⟩ := List.mem_filterMap.mp h
      obtain ⟨transportProtocol, -, rfl⟩ := Option.map_eq_some_iff.mp hsome
      exact to_enum_value_text htype
    · cases h

/-- A file declares at most one block for each type and transport protocol. -/
theorem declared_blocks_nodup [YamlCalls] (fileContent : String) :
    ((declaredBlocks fileContent).map fun declared =>
      (declared.type, declared.transportProtocol)).Nodup := by
  unfold declaredBlocks
  cases safeParseYaml fileContent with
  | none => exact List.nodup_nil
  | some document =>
      -- blocks of one entry differ in the protocol, those of two entries in the type
      rw [List.map_flatMap, List.nodup_flatMap]
      refine ⟨fun entry hentry => ?_, ?_⟩
      · have hunique := Value.unique_keys_of_entry document.2 hentry
        unfold typeBlocks
        split
        · exact List.nodup_nil
        · split_ifs
          · exact protocol_blocks_nodup (Value.entries_nodup hunique)
          · exact List.nodup_nil
      · refine (List.pairwise_map.mp (Value.entries_nodup document.2)).imp fun hne => ?_
        intro key hkey hother
        obtain ⟨declared, hdeclared, rfl⟩ := List.mem_map.mp hkey
        obtain ⟨other, hmem, hsame⟩ := List.mem_map.mp hother
        have htypes : other.type = declared.type := congrArg Prod.fst hsame
        rw [← type_of_type_blocks hdeclared, ← type_of_type_blocks hmem, htypes] at hne
        exact hne rfl

section Lemmas

variable [ExternalCalls]

/-- A default that is kept obeys the rules of its item. -/
theorem normalize_default_valid {item : DeviceConfigItem} {defaultValue kept : Value}
    (h : normalizeDefault item defaultValue = .ok kept) :
    validateItemValue item kept = .ok none := by
  unfold normalizeDefault at h
  split at h
  · cases h
    rfl
  · obtain ⟨message, hmessage, hkept⟩ := bind_ok_iff.mp h
    -- a default that breaks a rule is dropped, and an absent one breaks none
    cases message with
    | some message =>
        cases hkept
        rfl
    | none =>
        cases hkept
        exact hmessage

/-- The items that are not skipped have a declared type and a default that can be checked. -/
theorem normalize_item_some_iff {raw : Value} {item : DeviceConfigItem} :
    normalizeItem raw = .ok (some item) ↔
      ∃ type default, declaredType raw = some type ∧
        normalizeDefault (declaredItem raw type) (raw.property "default") = .ok default ∧
        item = { declaredItem raw type with default } := by
  unfold normalizeItem declaredType
  split
  · simp
  · cases toEnumValue DeviceConfigItemType.values DeviceConfigItemType.text
      (raw.property "type") with
    | none => simp
    | some type =>
        simp only [bind_ok_iff, pure, Except.pure, Except.ok.injEq, Option.some.injEq]
        constructor
        · intro h
          obtain ⟨default, hdefault, rfl⟩ := h
          exact ⟨type, default, rfl, hdefault, rfl⟩
        · intro h
          obtain ⟨_, default, rfl, hdefault, rfl⟩ := h
          exact ⟨default, hdefault, rfl⟩

/-- A skipped item has no declared type. -/
theorem normalize_item_none_iff {raw : Value} :
    normalizeItem raw = .ok none ↔ declaredType raw = none := by
  unfold normalizeItem declaredType
  split
  · simp
  · cases toEnumValue DeviceConfigItemType.values DeviceConfigItemType.text
      (raw.property "type") with
    | none => simp
    | some type => simp [bind_ok_iff, pure, Except.pure]

/-- The default of an item is valid for the item itself. -/
theorem default_valid {raw : Value} {item : DeviceConfigItem}
    (h : normalizeItem raw = .ok (some item)) :
    validateItemValue item item.default = .ok none := by
  obtain ⟨type, default, -, hdefault, rfl⟩ := normalize_item_some_iff.mp h
  exact normalize_default_valid hdefault

/-- Normalizing a section goes through the items the block lists under it. -/
theorem normalize_items_eq (block : Value) (payloadSection : DeviceConfigSection) :
    normalizeItems (block.property payloadSection.text) = do
      let normalized ← (rawItems block payloadSection).mapM normalizeItem
      return normalized.reduceOption := by
  unfold normalizeItems rawItems
  split <;> rfl

/-- A normalized list holds the items of the file that are not skipped. -/
theorem mem_normalize_items {block : Value} {payloadSection : DeviceConfigSection}
    {items : List DeviceConfigItem}
    (h : normalizeItems (block.property payloadSection.text) = .ok items)
    {item : DeviceConfigItem} :
    item ∈ items ↔ ∃ raw ∈ rawItems block payloadSection, normalizeItem raw = .ok (some item) := by
  rw [normalize_items_eq] at h
  obtain ⟨normalized, hnormalized, hitems⟩ := bind_ok_iff.mp h
  cases hitems
  rw [List.reduceOption_mem_iff, mem_results hnormalized]

/-- Every item of the file with a declared type has a place in the normalized list. -/
theorem exists_normalized {block : Value} {payloadSection : DeviceConfigSection}
    {items : List DeviceConfigItem}
    (h : normalizeItems (block.property payloadSection.text) = .ok items) {raw : Value}
    (hraw : raw ∈ rawItems block payloadSection) {type : DeviceConfigItemType}
    (htype : declaredType raw = some type) :
    ∃ default, { declaredItem raw type with default } ∈ items := by
  have hall := h
  rw [normalize_items_eq] at hall
  obtain ⟨normalized, hnormalized, -⟩ := bind_ok_iff.mp hall
  obtain ⟨result, -, hresult⟩ := exists_result hnormalized hraw
  cases result with
  | none =>
      rw [normalize_item_none_iff.mp hresult] at htype
      cases htype
  | some item =>
      obtain ⟨other, default, hother, -, rfl⟩ := normalize_item_some_iff.mp hresult
      rw [htype, Option.some.injEq] at hother
      subst hother
      exact ⟨default, (mem_normalize_items h).mpr ⟨raw, hraw, hresult⟩⟩

/-- What `buildConfig` makes of a block. -/
theorem build_config_ok {brand : DeviceBrand} {type : DeviceType}
    {transportProtocol : TransportProtocol} {block : Value} {config : DeviceConfig}
    (h : buildConfig brand type transportProtocol block = .ok config) :
    config.key = ⟨.value brand, .value type, .value transportProtocol⟩ ∧
    ∀ payloadSection, ∃ items, config.items payloadSection = some items ∧
      normalizeItems (block.property payloadSection.text) = .ok items := by
  obtain ⟨commands, hcommands, h⟩ := bind_ok_iff.mp h
  obtain ⟨controls, hcontrols, h⟩ := bind_ok_iff.mp h
  obtain ⟨measurements, hmeasurements, h⟩ := bind_ok_iff.mp h
  cases h
  refine ⟨rfl, fun payloadSection => ?_⟩
  cases payloadSection with
  | commands => exact ⟨commands, rfl, hcommands⟩
  | controls => exact ⟨controls, rfl, hcontrols⟩
  | measurements => exact ⟨measurements, rfl, hmeasurements⟩

/-- A built config says whether it is strict. -/
theorem build_config_strict {brand : DeviceBrand} {type : DeviceType}
    {transportProtocol : TransportProtocol} {block : Value} {config : DeviceConfig}
    (h : buildConfig brand type transportProtocol block = .ok config) :
    config.strict = some config.isStrict := by
  obtain ⟨commands, -, h⟩ := bind_ok_iff.mp h
  obtain ⟨controls, -, h⟩ := bind_ok_iff.mp h
  obtain ⟨measurements, -, h⟩ := bind_ok_iff.mp h
  cases h
  cases hstrict : (block.property "strict").strictEq (.bool false) <;>
    simp [DeviceConfig.isStrict]

/-- `buildConfig` on a declared block. -/
def buildDeclared (brand : DeviceBrand) (declared : DeclaredBlock) :
    Except HubError DeviceConfig :=
  buildConfig brand declared.type declared.transportProtocol declared.block

/-- The loop over the protocols builds a config of each block. -/
theorem parse_protocols_eq (brand : DeviceBrand) (type : DeviceType)
    (rawProtocols : List (String × Value)) :
    parseProtocols brand type rawProtocols =
      (protocolBlocks type rawProtocols).mapM (buildDeclared brand) := by
  induction rawProtocols with
  | nil => rfl
  | cons entry rest ih =>
      obtain ⟨rawProtocol, block⟩ := entry
      rw [parseProtocols, protocolBlocks, List.filterMap_cons]
      cases toEnumValue TransportProtocol.values TransportProtocol.text
        (.string rawProtocol) with
      | none => exact ih
      | some transportProtocol =>
          simp only [Option.map_some, List.mapM_cons]
          rw [ih]
          rfl

/-- The loop over the types builds a config of each block. -/
theorem parse_types_eq (brand : DeviceBrand) (entries : List (String × Value)) :
    parseTypes brand entries = (entries.flatMap typeBlocks).mapM (buildDeclared brand) := by
  induction entries with
  | nil => rfl
  | cons entry rest ih =>
      obtain ⟨rawType, rawProtocols⟩ := entry
      rw [parseTypes, List.flatMap_cons, List.mapM_append, ← ih, typeBlocks]
      cases toEnumValue DeviceType.values DeviceType.text (.string rawType) with
      | none => simp
      | some type =>
          cases hobject : rawProtocols.isObject with
          | false => simp
          | true =>
              simp only [Bool.not_true, Bool.false_eq_true, if_false, if_true,
                parse_protocols_eq]

variable [YamlCalls]

/-- A file declares the configs of its blocks. -/
theorem parse_file_eq {filePath fileContent : String} {brand : DeviceBrand}
    (h : extractBrandFromFilename filePath = some brand) :
    parseFile filePath fileContent =
      (declaredBlocks fileContent).mapM (buildDeclared brand) := by
  rw [parseFile, h, declaredBlocks]
  cases safeParseYaml fileContent with
  | none => rfl
  | some document => exact parse_types_eq brand document.1.entries

omit [YamlCalls] in
/-- A section can be normalized when the defaults of its items can be checked. -/
theorem normalize_items_ok_iff {block : Value} {payloadSection : DeviceConfigSection} :
    (∃ items, normalizeItems (block.property payloadSection.text) = .ok items) ↔
      ∀ raw ∈ rawItems block payloadSection, ∀ type ∈ declaredType raw, ∃ default,
        normalizeDefault (declaredItem raw type) (raw.property "default") = .ok default := by
  have hraw (raw : Value) : (∃ normalized, normalizeItem raw = .ok normalized) ↔
      ∀ type ∈ declaredType raw, ∃ default,
        normalizeDefault (declaredItem raw type) (raw.property "default") = .ok default := by
    cases htype : declaredType raw with
    | none => exact iff_of_true ⟨none, normalize_item_none_iff.mpr htype⟩ nofun
    | some type =>
        simp only [Option.mem_def, Option.some.injEq, forall_eq']
        refine ⟨fun ⟨normalized, hnormal⟩ => ?_, fun ⟨default, hdefault⟩ => ?_⟩
        · cases normalized with
          | none =>
              rw [normalize_item_none_iff.mp hnormal] at htype
              cases htype
          | some item =>
              obtain ⟨other, default, hother, hdefault, -⟩ := normalize_item_some_iff.mp hnormal
              rw [htype, Option.some.injEq] at hother
              exact ⟨default, hother ▸ hdefault⟩
        · exact ⟨_, normalize_item_some_iff.mpr ⟨type, default, htype, hdefault, rfl⟩⟩
  rw [normalize_items_eq]
  simp only [← hraw]
  rw [← map_m_succeeds_iff]
  refine ⟨fun ⟨items, hitems⟩ => ?_, fun ⟨normalized, hnormalized⟩ => ?_⟩
  · obtain ⟨normalized, hnormalized, -⟩ := bind_ok_iff.mp hitems
    exact ⟨normalized, hnormalized⟩
  · exact ⟨normalized.reduceOption, bind_ok_iff.mpr ⟨normalized, hnormalized, rfl⟩⟩

/-- The defaults of a file can be checked: no pattern that a default is tested with is broken. -/
def DefaultsChecked (fileContent : String) : Prop :=
  ∀ declared ∈ declaredBlocks fileContent, ∀ payloadSection,
    ∀ raw ∈ rawItems declared.block payloadSection, ∀ type ∈ declaredType raw, ∃ default,
      normalizeDefault (declaredItem raw type) (raw.property "default") = .ok default

/-- A file is parsed without an error when its defaults can be checked. -/
theorem parse_file_ok_iff {filePath fileContent : String} {brand : DeviceBrand}
    (h : extractBrandFromFilename filePath = some brand) :
    (∃ configs, parseFile filePath fileContent = .ok configs) ↔ DefaultsChecked fileContent := by
  rw [parse_file_eq h, map_m_succeeds_iff]
  refine forall₂_congr fun declared _ => ?_
  refine ⟨fun ⟨config, hbuild⟩ payloadSection => ?_, fun hchecked => ?_⟩
  · obtain ⟨items, -, hitems⟩ := (build_config_ok hbuild).2 payloadSection
    exact normalize_items_ok_iff.mp ⟨items, hitems⟩
  · obtain ⟨commands, hcommands⟩ := normalize_items_ok_iff.mpr (hchecked .commands)
    obtain ⟨controls, hcontrols⟩ := normalize_items_ok_iff.mpr (hchecked .controls)
    obtain ⟨measurements, hmeasurements⟩ := normalize_items_ok_iff.mpr (hchecked .measurements)
    exact ⟨_, bind_ok_iff.mpr ⟨commands, hcommands, bind_ok_iff.mpr ⟨controls, hcontrols,
      bind_ok_iff.mpr ⟨measurements, hmeasurements, rfl⟩⟩⟩⟩

/-- A parsed config is built from a declared block. -/
theorem mem_parse_file {filePath fileContent : String} {configs : List DeviceConfig}
    (h : parseFile filePath fileContent = .ok configs) {config : DeviceConfig}
    (hconfig : config ∈ configs) :
    ∃ brand, extractBrandFromFilename filePath = some brand ∧
      ∃ declared ∈ declaredBlocks fileContent, buildDeclared brand declared = .ok config := by
  cases hbrand : extractBrandFromFilename filePath with
  | none =>
      rw [parseFile, hbrand] at h
      cases h
      cases hconfig
  | some brand =>
      rw [parse_file_eq hbrand] at h
      exact ⟨brand, rfl, (mem_results h).mp hconfig⟩

end Lemmas

/-- The document of a file with one plug whose controls are given. -/
def plugDocument (controls : List Value) : Value :=
  .object [("plug", .object [("http", .object [("controls", .array controls)])])]

/-- A switch that is on by default. -/
def switchItem : Value :=
  .object [("label", .string "On"), ("name", .string "on"), ("type", .string "boolean"),
    ("default", .bool true)]

theorem switch_document_unique : (plugDocument [switchItem]).hasUniqueKeys = true :=
  rfl

/-- The file of the switch. -/
def switchContent : String :=
  "plug:\n  http:\n    controls:\n      - label: On\n        name: on\n" ++
    "        type: boolean\n        default: true\n"

/-- The config of the switch. -/
def switchConfig : DeviceConfig where
  brand := .shelly
  type := .plug
  transportProtocol := .http
  strict := some true
  commands := some []
  controls := some
    [{ label := .string "On", name := .string "on", type := .boolean, default := .bool true }]
  measurements := some []

example : @parseFile .unused (.reading ⟨plugDocument [switchItem], rfl⟩)
    "configs/devices/Shelly.yaml" switchContent = .ok [switchConfig] := rfl

end ConfigsParser

end MyHomeHub
