import MyHomeHub.DeviceConfigs.Parser
import MyHomeHub.DeviceConfigs.Validator

/-!
# Default payloads

`buildDefaultPayloads` seeds the payloads of a new device with the defaults of its config.
The parser checks each default against the item that declares it; the validator looks a
name up and checks the value against the first item it finds. For a name that several
items share, the last default is seeded and the first item decides.
-/

namespace MyHomeHub.ConfigsValidator

open JavaScript ConfigsParser

/-- The last item with a name, as a property name: the item whose default is seeded. -/
def lastItem (items : List DeviceConfigItem) (name : String) : Option DeviceConfigItem :=
  items.reverse.find? fun item => item.name.toString = name

/-- The rules accept a payload, except that required items without a default may be missing. -/
def AcceptedButForMissing [ExternalCalls] (payload : DevicePayload)
    (options : PayloadValidationOptions) : Prop :=
  collectErrors payload { options with strictPresence := false } = .ok [] ∧
    ∀ item ∈ getItems options, item.required = true →
      payload.isEmptyAt item.name.toString = true → item.default.isNullish = true

/-- The items of a section agree on the defaults of the names they share. -/
structure DefaultsAgree [ExternalCalls] (strict : Bool) (items : List DeviceConfigItem) : Prop where
  /-- In a strict block, each name is the name of an item as a string. -/
  named : strict = true → ∀ item ∈ items, item.name.toString ≠ devicePayloadOverrideKey →
    ∃ other ∈ items, other.name = .string item.name.toString
  /-- The first item of a name is also the last one, or it accepts the default of the last one. -/
  accepted : ∀ name ≠ devicePayloadOverrideKey, ∀ first last,
    findItem items name = some first → lastItem items name = some last →
      first = last ∨ acceptsValue first last.default = true
  /-- A default of a required item is not replaced by an absent one. -/
  kept : ∀ item ∈ items, item.required = true → item.default.isNullish = false →
    ∀ last, lastItem items item.name.toString = some last → last.default.isNullish = false

/-! ## The seeded payload -/

section Seeded

variable {items : List DeviceConfigItem} {name : String}

/-- The last item with a name is one of the items. -/
theorem last_item_some {last : DeviceConfigItem} (h : lastItem items name = some last) :
    last ∈ items ∧ last.name.toString = name := by
  refine ⟨List.mem_reverse.mp (List.mem_of_find?_eq_some h), ?_⟩
  exact of_decide_eq_true
    (List.find?_some (p := fun item : DeviceConfigItem => decide (item.name.toString = name)) h)

/-- Every name of an item has a last item. -/
theorem exists_last_item {item : DeviceConfigItem} (h : item ∈ items) :
    ∃ last, lastItem items item.name.toString = some last := by
  rw [← Option.isSome_iff_exists, lastItem, List.find?_isSome]
  exact ⟨item, List.mem_reverse.mpr h, decide_eq_true rfl⟩

/-- The seeded value of a name is the default of its last item. -/
theorem lookup_default_payload :
    (buildDefaultPayload (some items)).lookup name =
      (lastItem items name).map getItemDefaultValue := by
  -- later assignments win, so the lookup runs over the reversed items like `lastItem` does
  rw [buildDefaultPayload, Option.getD_some, Object.lookup_assignments, ← List.map_reverse,
    lastItem]
  induction items.reverse with
  | nil => rfl
  | cons item rest ih =>
      rw [List.map_cons, List.find?_cons]
      by_cases hname : item.name.toString = name
      · subst hname
        simp
      · rw [List.dlookup_cons_ne _ _ (Ne.symm hname), ih]
        simp [hname]

/-- An absent default is seeded as null. -/
theorem is_nullish_default_value {item : DeviceConfigItem} :
    (getItemDefaultValue item).isNullish = item.default.isNullish := by
  cases h : item.default.isNullish with
  | true => rw [getItemDefaultValue, Value.or_else_of_nullish h, Value.is_nullish_null]
  | false => rw [getItemDefaultValue, Value.or_else_of_not_nullish h, h]

/-- A seeded name is empty when its last item declares no default. -/
theorem is_empty_at_default_payload {last : DeviceConfigItem}
    (h : lastItem items name = some last) :
    (buildDefaultPayload (some items)).isEmptyAt name = last.default.isNullish := by
  rw [Object.isEmptyAt, lookup_default_payload, h, Option.map_some]
  exact is_nullish_default_value

variable [ExternalCalls]

/-- The rules of an item treat the seeded value like the declared default. -/
theorem accepts_default_value {first last : DeviceConfigItem} :
    acceptsValue first (getItemDefaultValue last) = acceptsValue first last.default := by
  cases h : last.default.isNullish with
  | false => rw [getItemDefaultValue, Value.or_else_of_not_nullish h]
  | true =>
      rw [getItemDefaultValue, Value.or_else_of_nullish h]
      simp [acceptsValue, validateItemValue, h]

end Seeded

/-! ## Acceptance of the seeded payload -/

section Accepted

variable [ExternalCalls] {options : PayloadValidationOptions} {name : String}

/-- The fields of the seeded payload are accepted when the first item of each name accepts the
default of the last one. -/
theorem default_fields_accepted_iff {items : List DeviceConfigItem}
    (hitems : getItems options = items) :
    collectErrors (buildDefaultPayload (some items))
      { options with strictPresence := false } = .ok [] ↔
      ∀ name ≠ devicePayloadOverrideKey, ∀ last, lastItem items name = some last →
        (findItem items name = none → options.strict = false) ∧
        ∀ first, findItem items name = some first → acceptsValue first last.default = true := by
  rw [collect_errors_nil_iff rfl]
  simp only [AcceptsField, validate_field_ok_iff, ← accepts_value_iff, lookup_default_payload,
    Option.map_eq_some_iff]
  constructor
  · intro h name hname last hlast
    obtain ⟨hstrict, hfirst⟩ := h name _ ⟨last, hlast, rfl⟩ hname
    refine ⟨fun hnone => hstrict (hitems ▸ hnone), fun first hfind => ?_⟩
    rw [← accepts_default_value]
    exact hfirst first (hitems ▸ hfind)
  · intro h name value hvalue hname
    obtain ⟨last, hlast, rfl⟩ := hvalue
    obtain ⟨hstrict, hfirst⟩ := h name hname last hlast
    refine ⟨fun hnone => hstrict (hitems ▸ hnone), fun first hfind => ?_⟩
    rw [accepts_default_value]
    exact hfirst first (hitems ▸ hfind)

omit [ExternalCalls] in
/-- A required item is missing from the seeded payload when the last item of its name has no
default. -/
theorem required_defaults_iff {items : List DeviceConfigItem} :
    (∀ item ∈ items, item.required = true →
      (buildDefaultPayload (some items)).isEmptyAt item.name.toString = true →
        item.default.isNullish = true) ↔
      ∀ item ∈ items, item.required = true → item.default.isNullish = false →
        ∀ last, lastItem items item.name.toString = some last →
          last.default.isNullish = false := by
  refine forall₂_congr fun item hitem => forall_congr' fun _ => ?_
  obtain ⟨last, hlast⟩ := exists_last_item hitem
  rw [is_empty_at_default_payload hlast]
  constructor
  · intro h hdefault other hother
    cases hlast.symm.trans hother
    by_contra hempty
    rw [Bool.not_eq_false] at hempty
    exact absurd (h hempty) (by simp [hdefault])
  · intro h hempty
    by_contra hdefault
    rw [Bool.not_eq_true] at hdefault
    exact absurd (h hdefault last hlast) (by simp [hempty])

/-- The payload seeded for a list of items whose defaults are valid is accepted exactly when the
items agree on the defaults of the names they share. -/
theorem default_payload_accepted_iff {items : List DeviceConfigItem}
    (hitems : getItems options = items)
    (hvalid : ∀ item ∈ items, validateItemValue item item.default = .ok none) :
    AcceptedButForMissing (buildDefaultPayload (some items)) options ↔
      DefaultsAgree options.strict items := by
  rw [AcceptedButForMissing, hitems, required_defaults_iff, default_fields_accepted_iff hitems]
  constructor
  · intro h
    obtain ⟨haccepted, hkept⟩ := h
    refine ⟨fun hstrict item hitem hname => ?_, fun name hname first last hfirst hlast => ?_,
      hkept⟩
    · -- an item whose name is no string is not found under it, and the field is unknown
      obtain ⟨last, hlast⟩ := exists_last_item hitem
      by_contra hnone
      have hfind : findItem items item.name.toString = none := by
        rw [find_item_none]
        exact fun other hother hsame => hnone ⟨other, hother, hsame⟩
      have hfalse := (haccepted _ hname last hlast).1 hfind
      rw [hstrict] at hfalse
      cases hfalse
    · exact .inr ((haccepted name hname last hlast).2 first hfirst)
  · intro h
    obtain ⟨hnamed, haccepted, hkept⟩ := h
    refine ⟨fun name hname last hlast => ⟨fun hnone => ?_, fun first hfirst => ?_⟩, hkept⟩
    · obtain ⟨hmem, rfl⟩ := last_item_some hlast
      by_contra hstrict
      obtain ⟨other, hother, hsame⟩ := hnamed (by simpa using hstrict) last hmem hname
      exact find_item_none.mp hnone other hother hsame
    · rcases haccepted name hname first last hfirst hlast with rfl | haccepts
      · -- the parser has checked the default of the item against the item itself
        exact accepts_value_iff.mpr (hvalid first (last_item_some hlast).1)
      · exact haccepts

/-- The items of a parsed config have valid defaults. -/
theorem parsed_default_valid [YamlCalls] {filePath fileContent : String}
    {configs : List DeviceConfig} (hparse : parseFile filePath fileContent = .ok configs)
    {config : DeviceConfig} (hconfig : config ∈ configs) (payloadSection : DeviceConfigSection) :
    ∃ items, config.items payloadSection = some items ∧
      ∀ item ∈ items, validateItemValue item item.default = .ok none := by
  obtain ⟨brand, -, declared, -, hbuild⟩ := mem_parse_file hparse hconfig
  obtain ⟨items, hitems, hnormalized⟩ := (build_config_ok hbuild).2 payloadSection
  refine ⟨items, hitems, fun item hitem => ?_⟩
  obtain ⟨raw, -, hraw⟩ := (mem_normalize_items hnormalized).mp hitem
  exact default_valid hraw

/-- The payloads seeded for a parsed config are accepted exactly when the items of their section
agree on the defaults of the names they share. -/
theorem default_payloads_accepted_iff [YamlCalls] {filePath fileContent : String}
    {configs : List DeviceConfig} (hparse : parseFile filePath fileContent = .ok configs)
    {config : DeviceConfig} (hconfig : config ∈ configs) :
    (AcceptedButForMissing (buildDefaultPayloads [config] config.key).controls
        (buildOptions config .controls .reject) ↔
      DefaultsAgree config.isStrict (config.controls.getD [])) ∧
    (AcceptedButForMissing (buildDefaultPayloads [config] config.key).measurements
        (buildOptions config .measurements .reject) ↔
      DefaultsAgree config.isStrict (config.measurements.getD [])) := by
  have hstored : getConfig [config] config.key = some config := by
    simp [getConfig]
  have hsection (payloadSection : DeviceConfigSection) :
      AcceptedButForMissing (buildDefaultPayload (config.items payloadSection))
          (buildOptions config payloadSection .reject) ↔
        DefaultsAgree config.isStrict ((config.items payloadSection).getD []) := by
    obtain ⟨items, hitems, hvalid⟩ := parsed_default_valid hparse hconfig payloadSection
    have hgetItems : getItems (buildOptions config payloadSection .reject) = items := by
      rw [getItems, buildOptions, hitems, Option.getD_some]
    rw [hitems, Option.getD_some]
    exact default_payload_accepted_iff hgetItems hvalid
  rw [buildDefaultPayloads, hstored]
  exact ⟨hsection .controls, hsection .measurements⟩

end Accepted

/-- A level up to 50, and a level of the same name with a default. -/
def levelItems (boost : ℚ) : List Value :=
  [.object [("label", .string "Level"), ("name", .string "level"), ("type", .string "number"),
      ("constraints", .object [("max", .number (.finite 50))])],
    .object [("label", .string "Boost"), ("name", .string "level"), ("type", .string "number"),
      ("default", .number (.finite boost))]]

/-- The file of the two levels. -/
def levelContent (boost : String) : String :=
  "plug:\n  http:\n    controls:\n      - label: Level\n        name: level\n" ++
    "        type: number\n        constraints:\n          max: 50\n" ++
    "      - label: Boost\n        name: level\n        type: number\n        default: " ++ boost

/-- The config of the two levels. -/
def levelConfig (boost : ℚ) : DeviceConfig where
  brand := .shelly
  type := .plug
  transportProtocol := .http
  strict := some true
  commands := some []
  controls := some
    [{ label := .string "Level"
       name := .string "level"
       type := .number
       constraints := some { max := .number (.finite 50) } },
      { label := .string "Boost"
        name := .string "level"
        type := .number
        default := .number (.finite boost) }]
  measurements := some []

/-- The first level accepts the default of the second one. -/
theorem default_payloads_accepted_iff_level :
    @AcceptedButForMissing .unused
      (buildDefaultPayloads [levelConfig 40] (levelConfig 40).key).controls
      (buildOptions (levelConfig 40) .controls .reject) := by
  have hparse : @parseFile .unused (.reading ⟨plugDocument (levelItems 40), rfl⟩) "shelly.yaml"
      (levelContent "40") = .ok [levelConfig 40] := rfl
  refine ((@default_payloads_accepted_iff .unused (.reading ⟨plugDocument (levelItems 40), rfl⟩)
    _ _ _ hparse (levelConfig 40) (List.mem_singleton_self _)).1).mpr
      (@DefaultsAgree.mk .unused _ _ ?_ ?_ ?_)
  · intro _ item hitem _
    refine ⟨item, hitem, ?_⟩
    rcases List.mem_pair.mp hitem with rfl | rfl <;> rfl
  · intro name _ first last hfirst hlast
    obtain ⟨hmem, hname⟩ := find_item_some hfirst
    obtain rfl : "level" = name := by
      rcases List.mem_pair.mp hmem with rfl | rfl <;> exact Value.string.inj hname
    cases hfirst
    cases hlast
    exact .inr (by decide +kernel)
  · intro item hitem hrequired
    rcases List.mem_pair.mp hitem with rfl | rfl <;> cases hrequired

/-- The default of the second level is seeded, and the rules of the first one reject it. -/
theorem seeded_level_rejected :
    ∃ config : DeviceConfig,
      @parseFile .unused (.reading ⟨plugDocument (levelItems 80), rfl⟩) "shelly.yaml"
        (levelContent "80") =
        .ok [config] ∧
      ¬ @AcceptedButForMissing .unused (buildDefaultPayloads [config] config.key).controls
        (buildOptions config .controls .reject) := by
  refine ⟨_, rfl, fun haccepted => ?_⟩
  have herrors := haccepted.1
  revert herrors
  decide +kernel

end MyHomeHub.ConfigsValidator
