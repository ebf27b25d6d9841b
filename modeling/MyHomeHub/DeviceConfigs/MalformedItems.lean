import MyHomeHub.DeviceConfigs.Parser

/-!
# Malformed items

The parser skips an item without a name, a label or a known type, and it drops constraints
that do not apply and defaults that break a rule. A broken pattern is not noticed before a
default is tested with it, and then it throws. `item_isolated_iff` says when an item leaves
the rest of its document alone.
-/

namespace MyHomeHub.ConfigsParser

open JavaScript Library

/-! ## Broken patterns -/

/-- A constraint of an item, as the file has it. -/
def rawConstraint (raw : Value) (name : String) : Value :=
  .ofOption ((raw.property "constraints").entries.lookup name)

/-- A text is neither too short nor too long for an item. -/
def withinLength (raw : Value) (s : String) : Bool :=
  let length : Number := .finite (utf16Length s)
  let minLength := rawConstraint raw "minLength"
  let maxLength := rawConstraint raw "maxLength"
  !(!minLength.isNullish && length.lt minLength.toNumber) &&
    !(!maxLength.isNullish && maxLength.toNumber.lt length)

/-- An item that is not skipped tests its default with a pattern that is no regular expression. -/
def TestsBrokenPattern [ExternalCalls] (raw : Value) : Prop :=
  declaredType raw = some .string ∧ ∃ s, raw.property "default" = .string s ∧
    withinLength raw s = true ∧ (rawConstraint raw "pattern").isNullish = false ∧
      ExternalCalls.regExp (rawConstraint raw "pattern").toString = none

theorem lookup_filter {fields : List (String × Value)} {p : String × Value → Bool}
    {name : String} (h : ∀ value, p (name, value) = true) :
    (fields.filter p).lookup name = fields.lookup name := by
  induction fields with
  | nil => rfl
  | cons field fields ih =>
      obtain ⟨other, value⟩ := field
      rw [List.filter_cons]
      by_cases hname : name = other
      · subst hname
        rw [if_pos (h value), List.lookup_cons_self, List.lookup_cons_self]
      · have hne : (name == other) = false := beq_false_of_ne hname
        split
        · rw [List.lookup_cons, List.lookup_cons, hne]
          exact ih
        · rw [List.lookup_cons, hne]
          exact ih

/-- The constraints of an item, where the absent ones are undefined. -/
theorem normalize_constraints_get (rawConstraints : Value) (type : DeviceConfigItemType) :
    (normalizeConstraints rawConstraints type).getD {} =
      let kept := rawConstraints.entries.filter (keepsConstraint type)
      { min := .ofOption (kept.lookup "min")
        max := .ofOption (kept.lookup "max")
        integer := .ofOption (kept.lookup "integer")
        minLength := .ofOption (kept.lookup "minLength")
        maxLength := .ofOption (kept.lookup "maxLength")
        pattern := .ofOption (kept.lookup "pattern")
        format := .ofOption (kept.lookup "format") } := by
  unfold normalizeConstraints
  dsimp only
  split
  · rename_i hnone
    have hempty : rawConstraints.entries.filter (keepsConstraint type) = [] := by
      rw [Bool.or_eq_true, Bool.not_eq_true', List.isEmpty_iff] at hnone
      rcases hnone with hobject | hempty
      · rw [Value.entries_of_not_object hobject, List.filter_nil]
      · exact hempty
    rw [hempty]
    rfl
  · rfl

/-- Checks that return early go on to the last one, unless the pattern in between throws. -/
theorem checks_ok_iff {tooShort tooLong noPattern : Bool} {pattern : Option (String → Bool)}
    {s : String} {short long other : Option String} {thrown rest : Except HubError (Option String)}
    (hthrown : ∀ message, thrown ≠ .ok message) (hrest : ∃ message, rest = .ok message) :
    (∃ message, (if tooShort = true then .ok short else if tooLong = true then .ok long
      else if (!noPattern) = true then
        match pattern with
        | none => thrown
        | some test => if (!test s) = true then .ok other else rest
      else rest) = .ok message) ↔
      ¬ (tooShort = false ∧ tooLong = false ∧ noPattern = false ∧ pattern = none) := by
  cases tooShort with
  | true => simp
  | false =>
      cases tooLong with
      | true => simp
      | false =>
          cases noPattern with
          | true => simpa using hrest
          | false =>
              cases pattern with
              | none => simpa using hthrown
              | some test => cases htest : test s <;> simp [htest, hrest]

section Defaults

variable [ExternalCalls] {item : DeviceConfigItem} {raw : Value} {s : String}

/-- Checking a text throws only at a broken pattern, if the format is known. -/
theorem validate_string_ok_iff
    (hformat : (item.constraints.getD {}).format.isNullish = false →
      (formatValidator (item.constraints.getD {}).format).isSome = true) :
    (∃ message, validateStringValue item (.string s) = .ok message) ↔
      ¬ ((!(item.constraints.getD {}).minLength.isNullish &&
            (Number.finite (utf16Length s)).lt (item.constraints.getD {}).minLength.toNumber)
              = false ∧
          (!(item.constraints.getD {}).maxLength.isNullish &&
            (item.constraints.getD {}).maxLength.toNumber.lt (.finite (utf16Length s))) = false ∧
          (item.constraints.getD {}).pattern.isNullish = false ∧
          ExternalCalls.regExp (item.constraints.getD {}).pattern.toString = none) := by
  unfold validateStringValue
  refine checks_ok_iff (fun message h => ?_) ?_
  · cases h
  · cases hnullish : (item.constraints.getD {}).format.isNullish with
    | true => exact ⟨none, rfl⟩
    | false =>
        obtain ⟨validator, hvalidator⟩ := Option.isSome_iff_exists.mp (hformat hnullish)
        simp only [hvalidator, Bool.not_false, if_true]
        split
        · exact ⟨_, rfl⟩
        · exact ⟨_, rfl⟩

/-- A format that is kept is known. -/
theorem format_of_declared_item
    (h : ((declaredItem raw .string).constraints.getD {}).format.isNullish = false) :
    (formatValidator ((declaredItem raw .string).constraints.getD {}).format).isSome = true := by
  have hconstraints := normalize_constraints_get (raw.property "constraints") .string
  rw [declaredItem] at h ⊢
  dsimp only at h hconstraints ⊢
  rw [hconstraints] at h ⊢
  dsimp only at h ⊢
  cases hlookup : ((raw.property "constraints").entries.filter (keepsConstraint .string)).lookup
      "format" with
  | none =>
      rw [hlookup] at h
      cases h
  | some format =>
      have hkept := (List.mem_filter.mp (Value.mem_of_lookup hlookup)).2
      have hknown : (toEnumValue DeviceConfigItemFormat.values DeviceConfigItemFormat.text
          (.string format.toString)).isSome = true := by
        simpa [keepsConstraint, applicableConstraints] using hkept
      obtain ⟨member, hmember⟩ := Option.isSome_iff_exists.mp hknown
      rw [Value.of_option_some, formatValidator, ← to_enum_value_text hmember]
      cases member <;> rfl

omit [ExternalCalls] in
/-- The constraints that a text is checked against are those of the file. -/
theorem constraints_of_declared_item :
    ((declaredItem raw .string).constraints.getD {}).minLength = rawConstraint raw "minLength" ∧
      ((declaredItem raw .string).constraints.getD {}).maxLength = rawConstraint raw "maxLength" ∧
      ((declaredItem raw .string).constraints.getD {}).pattern = rawConstraint raw "pattern" := by
  have hconstraints := normalize_constraints_get (raw.property "constraints") .string
  rw [declaredItem]
  dsimp only at hconstraints ⊢
  rw [hconstraints]
  dsimp only [rawConstraint]
  rw [lookup_filter fun _ => rfl, lookup_filter fun _ => rfl, lookup_filter fun _ => rfl]
  exact ⟨rfl, rfl, rfl⟩

/-- The default of an item can be checked unless it is tested with a broken pattern. -/
theorem normalize_default_ok_iff {type : DeviceConfigItemType} (h : declaredType raw = some type) :
    (∃ default, normalizeDefault (declaredItem raw type) (raw.property "default") = .ok default) ↔
      ¬ TestsBrokenPattern raw := by
  have hvalidate : (∃ default, normalizeDefault (declaredItem raw type) (raw.property "default") =
      .ok default) ↔
        ∃ message, validateItemValue (declaredItem raw type) (raw.property "default") =
          .ok message := by
    unfold normalizeDefault
    split
    · rename_i hnullish
      refine iff_of_true ⟨_, rfl⟩ ⟨none, ?_⟩
      rw [validateItemValue, if_pos hnullish]
    · simp only [bind_ok_iff]
      constructor
      · intro h
        obtain ⟨_, message, hmessage, -⟩ := h
        exact ⟨message, hmessage⟩
      · intro h
        obtain ⟨message, hmessage⟩ := h
        cases message with
        | none => exact ⟨_, none, hmessage, rfl⟩
        | some message => exact ⟨_, some message, hmessage, rfl⟩
  rw [hvalidate]
  by_cases htext : type = .string ∧ ∃ s, raw.property "default" = .string s
  · obtain ⟨rfl, s, hdefault⟩ := htext
    obtain ⟨hminLength, hmaxLength, hpattern⟩ := @constraints_of_declared_item raw
    have htests : TestsBrokenPattern raw ↔ withinLength raw s = true ∧
        (rawConstraint raw "pattern").isNullish = false ∧
          ExternalCalls.regExp (rawConstraint raw "pattern").toString = none := by
      simp [TestsBrokenPattern, h, hdefault]
    have hstring : validateItemValue (declaredItem raw .string) (raw.property "default") =
        validateStringValue (declaredItem raw .string) (.string s) := by
      rw [hdefault]
      rfl
    rw [hstring, validate_string_ok_iff format_of_declared_item, hminLength, hmaxLength, hpattern,
      htests, withinLength, Bool.and_eq_true, Bool.not_eq_true', Bool.not_eq_true', and_assoc]
  · -- only a text is tested with a pattern
    refine iff_of_true ?_ fun htests => ?_
    · unfold validateItemValue
      split
      · exact ⟨_, rfl⟩
      · cases type with
        | string =>
            cases hdefault : raw.property "default" with
            | string s => exact absurd ⟨rfl, s, hdefault⟩ htext
            | undefined => exact ⟨_, rfl⟩
            | null => exact ⟨_, rfl⟩
            | bool b => exact ⟨_, rfl⟩
            | number n => exact ⟨_, rfl⟩
            | array elements => exact ⟨_, rfl⟩
            | object fields => exact ⟨_, rfl⟩
        | boolean => exact ⟨_, rfl⟩
        | number => exact ⟨_, rfl⟩
        | enum => exact ⟨_, rfl⟩
        | object => exact ⟨_, rfl⟩
    · obtain ⟨htype, s, hdefault, -⟩ := htests
      rw [h, Option.some.injEq] at htype
      exact htext ⟨htype, s, hdefault⟩

/-- A file is parsed without an error exactly when no item tests its default with a broken
pattern. -/
theorem parse_file_succeeds_iff [YamlCalls] {filePath fileContent : String} {brand : DeviceBrand}
    (h : extractBrandFromFilename filePath = some brand) :
    (∃ configs, parseFile filePath fileContent = .ok configs) ↔
      ∀ declared ∈ declaredBlocks fileContent, ∀ payloadSection,
        ∀ raw ∈ rawItems declared.block payloadSection, ¬ TestsBrokenPattern raw := by
  rw [parse_file_ok_iff h]
  refine forall₂_congr fun declared _ => forall_congr' fun payloadSection =>
    forall₂_congr fun raw _ => ?_
  cases htype : declaredType raw with
  | none =>
      refine iff_of_true (fun type hmem => by cases hmem) fun htests => ?_
      rw [htests.1] at htype
      cases htype
  | some type =>
      simp only [Option.mem_def, Option.some.injEq, forall_eq']
      exact normalize_default_ok_iff htype

end Defaults

/-! ## A document around a list of items -/

/-- A document around the items that one of its blocks lists under a section. -/
structure ItemsContext where
  typesBefore : List (String × Value) := []
  rawType : String
  protocolsBefore : List (String × Value) := []
  rawProtocol : String
  fieldsBefore : List (String × Value) := []
  payloadSection : DeviceConfigSection
  fieldsAfter : List (String × Value) := []
  protocolsAfter : List (String × Value) := []
  typesAfter : List (String × Value) := []

namespace ItemsContext

/-- The block with the given items. -/
def block (context : ItemsContext) (items : List Value) : Value :=
  .object (context.fieldsBefore ++
    (context.payloadSection.text, .array items) :: context.fieldsAfter)

/-- The protocols of the type with the given items. -/
def protocols (context : ItemsContext) (items : List Value) : Value :=
  .object (context.protocolsBefore ++
    (context.rawProtocol, context.block items) :: context.protocolsAfter)

/-- The document with the given items. -/
def document (context : ItemsContext) (items : List Value) : Value :=
  .object (context.typesBefore ++ (context.rawType, context.protocols items) ::
    context.typesAfter)

/-- The block with the given items, unless its type or its protocol is unknown. -/
def declared (context : ItemsContext) (items : List Value) : Option DeclaredBlock := do
  let type ← toEnumValue DeviceType.values DeviceType.text (.string context.rawType)
  let transportProtocol ←
    toEnumValue TransportProtocol.values TransportProtocol.text (.string context.rawProtocol)
  return ⟨type, transportProtocol, context.block items⟩

end ItemsContext

/-- Two configs are the same, except that the first one has one more item, if there is any. -/
structure SameButFor (context : ItemsContext) (output : Option DeviceConfigItem)
    (config other : DeviceConfig) : Prop where
  type : config.type.text = context.rawType
  transportProtocol : config.transportProtocol.text = context.rawProtocol
  key : config.key = other.key
  strict : config.strict = other.strict
  sections : ∀ payloadSection ≠ context.payloadSection,
    config.items payloadSection = other.items payloadSection
  items : ∃ before after,
    config.items context.payloadSection = some (before ++ output.toList ++ after) ∧
      other.items context.payloadSection = some (before ++ after)

/-- Parsing throws neither with nor without the item, and it gives the same configs, except for what
the item itself becomes. -/
def ItemIsolated [ExternalCalls] [YamlCalls] (filePath fileContent otherContent : String)
    (context : ItemsContext) (raw : Value) : Prop :=
  ∃ configs others, parseFile filePath fileContent = .ok configs ∧
    parseFile filePath otherContent = .ok others ∧
    (configs = others ∨ ∃ output before config other after,
      normalizeItem raw = .ok output ∧ configs = before ++ config :: after ∧
        others = before ++ other :: after ∧ SameButFor context output config other)

variable {context : ItemsContext} {items : List Value}

/-- The blocks of a document around those items. -/
theorem blocks_of_document (context : ItemsContext) :
    ∃ before after, ∀ items, (context.document items).entries.flatMap typeBlocks =
      before ++ (context.declared items).toList ++ after := by
  unfold ItemsContext.declared
  cases htype : toEnumValue DeviceType.values DeviceType.text (.string context.rawType) with
  | none =>
      refine ⟨context.typesBefore.flatMap typeBlocks, context.typesAfter.flatMap typeBlocks,
        fun items => ?_⟩
      have hskipped : typeBlocks (context.rawType, context.protocols items) = [] := by
        rw [typeBlocks, htype]
      rw [ItemsContext.document, Value.entries, List.flatMap_append, List.flatMap_cons, hskipped]
      simp
  | some type =>
      refine ⟨context.typesBefore.flatMap typeBlocks ++ protocolBlocks type context.protocolsBefore,
        protocolBlocks type context.protocolsAfter ++ context.typesAfter.flatMap typeBlocks,
        fun items => ?_⟩
      have hblocks : typeBlocks (context.rawType, context.protocols items) =
          protocolBlocks type (context.protocolsBefore ++
            (context.rawProtocol, context.block items) :: context.protocolsAfter) := by
        rw [typeBlocks, htype]
        rfl
      rw [ItemsContext.document, Value.entries, List.flatMap_append, List.flatMap_cons, hblocks]
      unfold protocolBlocks
      rw [List.filterMap_append, List.filterMap_cons]
      cases toEnumValue TransportProtocol.values TransportProtocol.text
          (.string context.rawProtocol) with
      | none => simp
      | some transportProtocol => simp [ItemsContext.block, Value.orElse, Value.isNullish]

/-- Whether the block is skipped does not depend on the items. -/
theorem ItemsContext.declared_cases (context : ItemsContext) :
    (∀ items, context.declared items = none) ∨
      ∃ type transportProtocol, type.text = context.rawType ∧
        transportProtocol.text = context.rawProtocol ∧
        ∀ items, context.declared items = some ⟨type, transportProtocol, context.block items⟩ := by
  unfold ItemsContext.declared
  cases htype : toEnumValue DeviceType.values DeviceType.text (.string context.rawType) with
  | none => exact .inl fun items => rfl
  | some type =>
      cases hprotocol : toEnumValue TransportProtocol.values TransportProtocol.text
          (.string context.rawProtocol) with
      | none => exact .inl fun items => rfl
      | some transportProtocol =>
          exact .inr ⟨type, transportProtocol, to_enum_value_text htype,
            to_enum_value_text hprotocol, fun items => rfl⟩

/-- The items of the section are found in the block. -/
theorem property_block_items (h : (context.document items).hasUniqueKeys = true) :
    (context.block items).property context.payloadSection.text = .array items := by
  have hprotocols : (context.protocols items).hasUniqueKeys = true :=
    Value.unique_keys_of_entry h
      (show (context.rawType, context.protocols items) ∈ _ from List.mem_append_right _
        List.mem_cons_self)
  have hblock : (context.block items).hasUniqueKeys = true :=
    Value.unique_keys_of_entry hprotocols
      (show (context.rawProtocol, context.block items) ∈ _ from List.mem_append_right _
        List.mem_cons_self)
  unfold ItemsContext.block at hblock ⊢
  rw [Value.property, Value.lookup_of_mem (Value.nodup_of_unique_keys hblock)
    (List.mem_append_right _ List.mem_cons_self), Value.of_option_some]

/-- The other properties of the block do not depend on the items. -/
theorem property_block_other {name : String} (h : name ≠ context.payloadSection.text)
    (items others : List Value) :
    (context.block items).property name = (context.block others).property name := by
  have hne : (name == context.payloadSection.text) = false := beq_false_of_ne h
  unfold ItemsContext.block Value.property
  dsimp only
  rw [List.lookup_append, List.lookup_append, List.lookup_cons, List.lookup_cons, hne]

/-! ## One item less -/

section Isolation

variable [ExternalCalls] {raw : Value} {front back : List Value}

/-- Without one of its items, a section has the items that the others become. -/
theorem normalize_items_without {normalized : List DeviceConfigItem}
    (h : normalizeItems (.array (front ++ raw :: back)) = .ok normalized) :
    ∃ output before after, normalizeItem raw = .ok output ∧
      normalized = before ++ output.toList ++ after ∧
      normalizeItems (.array (front ++ back)) = .ok (before ++ after) := by
  simp only [normalizeItems, List.mapM_append, List.mapM_cons, bind_ok_iff] at h
  obtain ⟨_, ⟨before, hbefore, _, ⟨output, houtput, after, hafter, hrest⟩, hall⟩, hnormalized⟩ := h
  cases hrest
  cases hall
  cases hnormalized
  refine ⟨output, before.reduceOption, after.reduceOption, houtput, ?_, ?_⟩
  · cases output with
    | none => simp [List.reduceOption_append]
    | some item => simp [List.reduceOption_append]
  · simp only [normalizeItems, List.mapM_append, bind_ok_iff]
    exact ⟨before ++ after, ⟨before, hbefore, after, hafter, rfl⟩, by
      rw [List.reduceOption_append]
      rfl⟩

/-- A block whose sections can be normalized becomes a config with those items. -/
theorem build_config_of_sections {brand : DeviceBrand} {type : DeviceType}
    {transportProtocol : TransportProtocol} {block : Value}
    {items : DeviceConfigSection → List DeviceConfigItem}
    (h : ∀ payloadSection, normalizeItems (block.property payloadSection.text) =
      .ok (items payloadSection)) :
    ∃ config, buildConfig brand type transportProtocol block = .ok config ∧
      config.strict = some !((block.property "strict").strictEq (.bool false)) ∧
      ∀ payloadSection, config.items payloadSection = some (items payloadSection) := by
  refine ⟨_, bind_ok_iff.mpr ⟨_, h .commands, bind_ok_iff.mpr ⟨_, h .controls,
    bind_ok_iff.mpr ⟨_, h .measurements, rfl⟩⟩⟩, rfl, fun payloadSection => ?_⟩
  cases payloadSection with
  | commands => rfl
  | controls => rfl
  | measurements => rfl

omit [ExternalCalls] in
theorem section_text_injective {a b : DeviceConfigSection} (h : a.text = b.text) : a = b := by
  revert h
  cases a <;> cases b <;> decide

/-- The config of a block without one of its items. -/
theorem build_config_without {brand : DeviceBrand} {type : DeviceType}
    {transportProtocol : TransportProtocol} {config : DeviceConfig}
    (htype : type.text = context.rawType)
    (htransportProtocol : transportProtocol.text = context.rawProtocol)
    (hunique : (context.document (front ++ raw :: back)).hasUniqueKeys = true)
    (hwithout : (context.document (front ++ back)).hasUniqueKeys = true)
    (h : buildConfig brand type transportProtocol (context.block (front ++ raw :: back)) =
      .ok config) :
    ∃ output other, normalizeItem raw = .ok output ∧
      buildConfig brand type transportProtocol (context.block (front ++ back)) = .ok other ∧
      SameButFor context output config other := by
  obtain ⟨hkey, hsections⟩ := build_config_ok h
  choose items hitems hnormalized using hsections
  have hlisted := hnormalized context.payloadSection
  rw [property_block_items hunique] at hlisted
  obtain ⟨output, before, after, houtput, hall, hothers⟩ := normalize_items_without hlisted
  have hremaining : ∀ payloadSection,
      normalizeItems ((context.block (front ++ back)).property payloadSection.text) =
        .ok (if payloadSection = context.payloadSection then before ++ after
          else items payloadSection) := by
    intro payloadSection
    by_cases hsame : payloadSection = context.payloadSection
    · rw [hsame, if_pos rfl, property_block_items hwithout]
      exact hothers
    · rw [if_neg hsame, property_block_other (fun htext => hsame (section_text_injective htext)) _
        (front ++ raw :: back)]
      exact hnormalized payloadSection
  obtain ⟨other, hbuild, hotherStrict, hotherItems⟩ := @build_config_of_sections _ brand type
    transportProtocol _ _ hremaining
  obtain ⟨same, hsame, hstrict, -⟩ := @build_config_of_sections _ brand type
    transportProtocol _ _ hnormalized
  cases hsame.symm.trans h
  obtain ⟨-, hconfigType, hconfigProtocol⟩ := DeviceKey.mk.inj hkey
  refine ⟨output, other, houtput, hbuild, ?_, ?_, ?_, ?_, ?_, before, after, ?_, ?_⟩
  · rw [Optional.value.inj hconfigType, htype]
  · rw [Optional.value.inj hconfigProtocol, htransportProtocol]
  · rw [hkey, (build_config_ok hbuild).1]
  · have hname : "strict" ≠ context.payloadSection.text := by
      cases context.payloadSection <;> decide
    rw [hstrict, hotherStrict, property_block_other hname]
  · intro payloadSection hne
    rw [hitems, hotherItems, if_neg hne]
  · rw [hitems, hall]
  · rw [hotherItems, if_pos rfl]

/-- A file with a YAML object declares the configs of the blocks of the object. -/
theorem parse_file_of_load [YamlCalls] {filePath fileContent : String} {brand : DeviceBrand}
    {document : YamlDocument} (hbrand : extractBrandFromFilename filePath = some brand)
    (hload : YamlCalls.load fileContent = some document) (hobject : document.1.isObject = true) :
    parseFile filePath fileContent =
      (document.1.entries.flatMap typeBlocks).mapM (buildDeclared brand) := by
  rw [parse_file_eq hbrand, declaredBlocks, safeParseYaml, hload, Option.filter_some,
    if_pos hobject]

/-- An item leaves the rest of its document alone exactly when no item of the document tests its
default with a broken pattern. -/
theorem item_isolated_iff [YamlCalls] (filePath fileContent otherContent : String)
    (brand : DeviceBrand) (context : ItemsContext) (raw : Value) (front back : List Value)
    (document other : YamlDocument)
    (hbrand : extractBrandFromFilename filePath = some brand)
    (hload : YamlCalls.load fileContent = some document)
    (hdocument : document.1 = context.document (front ++ raw :: back))
    (hloadOther : YamlCalls.load otherContent = some other)
    (hother : other.1 = context.document (front ++ back)) :
    ItemIsolated filePath fileContent otherContent context raw ↔
      ∀ declared ∈ declaredBlocks fileContent, ∀ payloadSection,
        ∀ item ∈ rawItems declared.block payloadSection, ¬ TestsBrokenPattern item := by
  rw [← parse_file_succeeds_iff hbrand]
  constructor
  · intro h
    obtain ⟨configs, -, hconfigs, -⟩ := h
    exact ⟨configs, hconfigs⟩
  · intro h
    obtain ⟨configs, hconfigs⟩ := h
    have hfile := parse_file_of_load hbrand hload (by rw [hdocument]; rfl)
    have hotherFile := parse_file_of_load hbrand hloadOther (by rw [hother]; rfl)
    obtain ⟨blocksBefore, blocksAfter, hblocks⟩ := blocks_of_document context
    rw [hdocument, hblocks] at hfile
    rw [hother, hblocks] at hotherFile
    rcases context.declared_cases with hskipped | ⟨type, transportProtocol, htype, hprotocol, hsome⟩
    · -- the block is skipped, with the item and without it
      rw [hskipped] at hfile hotherFile
      exact ⟨configs, configs, hconfigs, hotherFile.trans (hfile.symm.trans hconfigs), .inl rfl⟩
    · have hall := hfile.symm.trans hconfigs
      rw [hsome] at hall hotherFile
      simp only [Option.toList_some, List.mapM_append, List.mapM_cons, List.mapM_nil,
        bind_ok_iff] at hall
      obtain ⟨_, ⟨before, hbefore, _, ⟨config, hconfig, _, hnil, hone⟩, hmiddle⟩, after, hafter,
        hresult⟩ := hall
      cases hnil
      cases hone
      cases hmiddle
      cases hresult
      obtain ⟨output, otherConfig, houtput, hbuild, hsame⟩ := build_config_without htype hprotocol
        (hdocument ▸ document.2) (hother ▸ other.2) hconfig
      refine ⟨_, before ++ otherConfig :: after, hconfigs, ?_, .inr ⟨output, before, config,
        otherConfig, after, houtput, by simp, rfl, hsame⟩⟩
      rw [hotherFile]
      simp only [Option.toList_some, List.mapM_append, List.mapM_cons, List.mapM_nil, bind_ok_iff]
      exact ⟨before ++ [otherConfig], ⟨before, hbefore, [otherConfig],
        ⟨otherConfig, hbuild, [], rfl, rfl⟩, rfl⟩, after, hafter, by simp [pure, Except.pure]⟩

end Isolation

/-! ## A switch next to a malformed item -/

/-- The controls of a plug. -/
def plugControls : ItemsContext where
  rawType := "plug"
  rawProtocol := "http"
  payloadSection := .controls

/-- An item without a label. -/
def bareItem : Value :=
  .object [("name", .string "boost"), ("type", .string "boolean")]

/-- The file of the switch and the item without a label. -/
def bareContent : String :=
  switchContent ++ "      - name: boost\n        type: boolean\n"

/-- A mode whose pattern is no regular expression. -/
def modeItem : Value :=
  .object [("label", .string "Mode"), ("name", .string "mode"), ("type", .string "string"),
    ("constraints", .object [("pattern", .string "[")]), ("default", .string "auto")]

/-- The file of the switch and the mode. -/
def modeContent : String :=
  switchContent ++ "      - label: Mode\n        name: mode\n        type: string\n" ++
    "        constraints:\n          pattern: \"[\"\n        default: auto\n"

/-- A YAML parser for the file of the switch alone and for files with one item more. -/
@[reducible] def switchAnd (item : Value)
    (h : (plugDocument [switchItem, item]).hasUniqueKeys = true) : YamlCalls where
  load content :=
    if content = switchContent then some ⟨plugDocument [switchItem], switch_document_unique⟩
    else some ⟨plugDocument [switchItem, item], h⟩

theorem shelly_file : extractBrandFromFilename "shelly.yaml" = some .shelly := by
  decide +kernel

/-- The item without a label is skipped and leaves the switch alone. -/
theorem item_isolated_iff_no_label :
    @ItemIsolated .unused (switchAnd bareItem rfl) "shelly.yaml" bareContent switchContent
      plugControls bareItem := by
  have hload : @YamlCalls.load (switchAnd bareItem rfl) bareContent =
      some ⟨plugDocument [switchItem, bareItem], rfl⟩ := if_neg (by decide)
  have hloadSwitch : @YamlCalls.load (switchAnd bareItem rfl) switchContent =
      some ⟨plugDocument [switchItem], rfl⟩ := if_pos rfl
  refine (@item_isolated_iff .unused (switchAnd bareItem rfl) "shelly.yaml" bareContent
    switchContent .shelly plugControls bareItem [switchItem] [] _ _ shelly_file hload rfl
      hloadSwitch rfl).mpr ?_
  intro declared hdeclared payloadSection item hitem htests
  cases List.mem_singleton.mp hdeclared
  cases payloadSection with
  | commands => cases hitem
  | controls =>
      have htype := htests.1
      rcases List.mem_pair.mp hitem with rfl | rfl
      · cases htype
      · cases htype
  | measurements => cases hitem

/-- The default of the mode is tested with its pattern. -/
theorem mode_tests_broken_pattern : @TestsBrokenPattern .unused modeItem :=
  ⟨rfl, "auto", rfl, rfl, rfl, rfl⟩

/-- The pattern of the mode is not skipped as malformed. It throws when the default is tested with
it, and the switch is lost with it. -/
theorem broken_pattern_not_isolated :
    (∀ configs, @parseFile .unused (switchAnd modeItem rfl) "shelly.yaml" modeContent ≠
      .ok configs) ∧
    @parseFile .unused (switchAnd modeItem rfl) "shelly.yaml" switchContent = .ok [switchConfig] ∧
    ¬ @ItemIsolated .unused (switchAnd modeItem rfl) "shelly.yaml" modeContent switchContent
      plugControls modeItem := by
  have hload : @YamlCalls.load (switchAnd modeItem rfl) modeContent =
      some ⟨plugDocument [switchItem, modeItem], rfl⟩ := if_neg (by decide +kernel)
  have hblocks : @declaredBlocks (switchAnd modeItem rfl) modeContent =
      [⟨.plug, .http, plugControls.block [switchItem, modeItem]⟩] := by
    unfold declaredBlocks safeParseYaml
    rw [hload]
    rfl
  have hthrows : ∀ configs, @parseFile .unused (switchAnd modeItem rfl) "shelly.yaml"
      modeContent ≠ .ok configs := by
    intro configs hconfigs
    have hchecked := (@parse_file_succeeds_iff .unused (switchAnd modeItem rfl) _ _ _
      shelly_file).mp ⟨configs, hconfigs⟩
    rw [hblocks] at hchecked
    exact hchecked _ List.mem_cons_self .controls modeItem
      (List.mem_cons_of_mem _ List.mem_cons_self) mode_tests_broken_pattern
  have hswitch : @parseFile .unused (switchAnd modeItem rfl) "shelly.yaml" switchContent =
      .ok [switchConfig] :=
    (@parse_file_of_load .unused (switchAnd modeItem rfl) "shelly.yaml" switchContent _
      ⟨plugDocument [switchItem], switch_document_unique⟩ shelly_file (if_pos rfl) rfl).trans rfl
  refine ⟨hthrows, hswitch, fun h => ?_⟩
  obtain ⟨configs, -, hconfigs, -⟩ := h
  exact hthrows configs hconfigs

end MyHomeHub.ConfigsParser
