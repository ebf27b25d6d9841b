import MyHomeHub.DeviceConfigs.MalformedItems
import MyHomeHub.DeviceConfigs.Validator

/-!
# Sanitized payloads

Under the policy `sanitize` a section keeps the entries that violate no rule. Read
`sanitizes_iff` first: the policy does what it promises exactly when no entry of the
payload reaches a rule that throws, which a broken pattern does and a format that no
validator is known for.
-/

namespace MyHomeHub.ConfigsValidator

open JavaScript

section Rules

variable [ExternalCalls]

/-! ## Rules that throw -/

/-- A text is neither too short nor too long for the constraints of an item. -/
def AllowsLength (constraints : DeviceConfigItemConstraints) (s : String) : Prop :=
  (!constraints.minLength.isNullish &&
      (Number.finite (utf16Length s)).lt constraints.minLength.toNumber) = false ∧
    (!constraints.maxLength.isNullish &&
      constraints.maxLength.toNumber.lt (.finite (utf16Length s))) = false

/-- A text passes the pattern of an item, if it has one. -/
def PassesPattern (constraints : DeviceConfigItemConstraints) (s : String) : Prop :=
  constraints.pattern.isNullish = true ∨
    ∃ test, ExternalCalls.regExp constraints.pattern.toString = some test ∧ test s = true

/-- A text reaches a rule that cannot be checked: its length is allowed, and the pattern is no
regular expression, or it is passed and the format has no validator. -/
def ReachesBrokenRule (constraints : DeviceConfigItemConstraints) (s : String) : Prop :=
  AllowsLength constraints s ∧
    ((constraints.pattern.isNullish = false ∧
        ExternalCalls.regExp constraints.pattern.toString = none) ∨
      (PassesPattern constraints s ∧ constraints.format.isNullish = false ∧
        formatValidator constraints.format = none))

/-- A value is checked against a rule that throws, which only happens to the text of a string
item. -/
def MeetsBrokenRule (item : DeviceConfigItem) (value : Value) : Prop :=
  item.type = .string ∧ ∃ s, value = .string s ∧ ReachesBrokenRule (item.constraints.getD {}) s

omit [ExternalCalls] in
/-- A check that may be skipped returns unless its test is missing, and the rest follows when the
test is passed. -/
theorem check_returns_iff {skipped : Bool} {check : Option (String → Bool)} {s : String}
    {failed : Option String} {thrown rest : Except HubError (Option String)}
    (hthrown : ∀ message, thrown ≠ .ok message) :
    (∃ message, (if (!skipped) = true then
        match check with
        | none => thrown
        | some test => if (!test s) = true then .ok failed else rest
      else rest) = .ok message) ↔
      ¬ (skipped = false ∧ check = none) ∧
        ((skipped = true ∨ ∃ test, check = some test ∧ test s = true) →
          ∃ message, rest = .ok message) := by
  cases skipped with
  | true => simp
  | false =>
      cases check with
      | none => simpa using hthrown
      | some test => cases htest : test s <;> simp [htest]

variable {item : DeviceConfigItem} {value : Value}

/-- The check of a text returns unless it reaches a rule that throws. -/
theorem validate_string_returns_iff {s : String} :
    (∃ message, validateStringValue item (.string s) = .ok message) ↔
      ¬ ReachesBrokenRule (item.constraints.getD {}) s := by
  unfold validateStringValue ReachesBrokenRule AllowsLength PassesPattern
  dsimp only
  generalize item.constraints.getD {} = constraints
  cases hshort : (!constraints.minLength.isNullish &&
      (Number.finite (utf16Length s)).lt constraints.minLength.toNumber) with
  | true => simp [pure, Except.pure]
  | false =>
      cases hlong : (!constraints.maxLength.isNullish &&
          constraints.maxLength.toNumber.lt (.finite (utf16Length s))) with
      | true => simp [pure, Except.pure]
      | false =>
          -- the pattern is checked first, and the format only of a text that passes it
          refine (check_returns_iff fun message h => by cases h).trans ?_
          refine (and_congr_right' (imp_congr_right fun _ =>
            check_returns_iff fun message h => by cases h)).trans ?_
          simp only [pure, Except.pure, Except.ok.injEq, exists_eq', implies_true, and_true,
            true_and]
          exact (not_or.trans (and_congr_right' not_and)).symm

/-- The check of a value returns unless it meets a rule that throws. -/
theorem validate_item_returns_iff :
    (∃ message, validateItemValue item value = .ok message) ↔ ¬ MeetsBrokenRule item value := by
  by_cases htext : item.type = .string ∧ ∃ s, value = .string s
  · obtain ⟨htype, s, rfl⟩ := htext
    have hmeets : MeetsBrokenRule item (.string s) ↔
        ReachesBrokenRule (item.constraints.getD {}) s := by
      simp [MeetsBrokenRule, htype]
    have hstring : validateItemValue item (.string s) = validateStringValue item (.string s) := by
      rw [validateItemValue, htype]
      rfl
    rw [hstring, validate_string_returns_iff, hmeets]
  · refine iff_of_true ?_ fun h => htext ⟨h.1, h.2.imp fun s h => h.1⟩
    unfold validateItemValue
    split
    · exact ⟨_, rfl⟩
    · cases htype : item.type with
      | string =>
          cases value with
          | string s => exact absurd ⟨htype, s, rfl⟩ htext
          | undefined => exact ⟨_, rfl⟩
          | null => exact ⟨_, rfl⟩
          | bool b => exact ⟨_, rfl⟩
          | number n => exact ⟨_, rfl⟩
          | array elements => exact ⟨_, rfl⟩
          | object fields => exact ⟨_, rfl⟩
      | boolean => exact ⟨_, rfl⟩
      | number => exact ⟨_, rfl⟩
      | enum => exact ⟨_, rfl⟩
      | object => exact ⟨_, rfl⟩

/-! ## What is kept -/

/-- An entry of a payload is checked against a rule that throws. The flag is checked by none. -/
def MeetsBrokenRuleOf (items : List DeviceConfigItem) (name : String) (value : Value) : Prop :=
  name ≠ devicePayloadOverrideKey ∧ ∃ item, findItem items name = some item ∧
    MeetsBrokenRule item value

variable {options : PayloadValidationOptions} {payload sanitized : DevicePayload}

/-- The check of a field returns unless the first item of its name throws. -/
theorem validate_field_returns_iff {name : String} :
    (∃ message, validateField options name value = .ok message) ↔
      ∀ item, findItem (getItems options) name = some item → ¬ MeetsBrokenRule item value := by
  unfold validateField
  cases findItem (getItems options) name with
  | none => simp
  | some item => simp [validate_item_returns_iff]

/-- The check of an entry other than the flag returns unless it meets a rule that throws. -/
theorem entry_checked_iff {name : String} (hname : name ≠ devicePayloadOverrideKey) :
    (∃ message, validateField options name value = .ok message) ↔
      ¬ MeetsBrokenRuleOf (getItems options) name value := by
  rw [validate_field_returns_iff, MeetsBrokenRuleOf, and_iff_right hname, not_exists]
  exact forall_congr' fun item => not_and.symm

/-- The entries can be sanitized exactly when each of them can be checked. -/
theorem valid_entries_returns_iff {entries : List (Σ _ : String, Value)} :
    (∃ remaining, validEntries options entries = .ok remaining) ↔
      ∀ entry ∈ entries, ¬ MeetsBrokenRuleOf (getItems options) entry.1 entry.2 := by
  induction entries with
  | nil => simp [validEntries]
  | cons entry entries ih =>
      obtain ⟨name, value⟩ := entry
      rw [List.forall_mem_cons, ← ih]
      by_cases hname : name = devicePayloadOverrideKey
      · simp [validEntries, hname, MeetsBrokenRuleOf]
      · rw [← entry_checked_iff hname]
        constructor
        · intro h
          obtain ⟨remaining, hremaining⟩ := h
          obtain ⟨message, rest, hmessage, hrest, -⟩ :=
            (valid_entries_cons_iff hname).mp hremaining
          exact ⟨⟨message, hmessage⟩, rest, hrest⟩
        · intro h
          obtain ⟨⟨message, hmessage⟩, rest, hrest⟩ := h
          exact ⟨_, (valid_entries_cons_iff hname).mpr ⟨message, rest, hmessage, hrest, rfl⟩⟩

/-- The violations of entries are found exactly when the entries can be sanitized. -/
theorem field_errors_returns_iff {entries : List (Σ _ : String, Value)} :
    (∃ errors, fieldErrors options entries = .ok errors) ↔
      ∃ remaining, validEntries options entries = .ok remaining := by
  induction entries with
  | nil => exact iff_of_true ⟨[], rfl⟩ ⟨[], rfl⟩
  | cons entry entries ih =>
      obtain ⟨name, value⟩ := entry
      by_cases hname : name = devicePayloadOverrideKey
      · rw [fieldErrors, validEntries, if_pos hname, if_pos hname]
        exact ih
      · constructor
        · intro h
          obtain ⟨errors, herrors⟩ := h
          obtain ⟨message, found, hmessage, hfound, -⟩ := (field_errors_cons_iff hname).mp herrors
          obtain ⟨rest, hrest⟩ := ih.mp ⟨found, hfound⟩
          exact ⟨_, (valid_entries_cons_iff hname).mpr ⟨message, rest, hmessage, hrest, rfl⟩⟩
        · intro h
          obtain ⟨remaining, hremaining⟩ := h
          obtain ⟨message, rest, hmessage, hrest, -⟩ :=
            (valid_entries_cons_iff hname).mp hremaining
          obtain ⟨found, hfound⟩ := ih.mpr ⟨rest, hrest⟩
          exact ⟨_, (field_errors_cons_iff hname).mpr ⟨message, found, hmessage, hfound, rfl⟩⟩

/-- The violations of a payload are collected exactly when each of its entries can be checked. -/
theorem collect_errors_returns_iff :
    (∃ errors, collectErrors payload options = .ok errors) ↔
      ∀ name value, payload.lookup name = some value →
        ¬ MeetsBrokenRuleOf (getItems options) name value := by
  rw [← Object.forall_entries (p := fun name value =>
    ¬ MeetsBrokenRuleOf (getItems options) name value), ← valid_entries_returns_iff,
    ← field_errors_returns_iff]
  constructor
  · intro h
    obtain ⟨errors, herrors⟩ := h
    obtain ⟨found, hfound, -⟩ := bind_ok_iff.mp herrors
    exact ⟨found, hfound⟩
  · intro h
    obtain ⟨errors, herrors⟩ := h
    exact ⟨_, bind_ok_iff.mpr ⟨errors, herrors, rfl⟩⟩

/-- A payload can be sanitized exactly when each of its entries can be checked. -/
theorem sanitize_returns_iff :
    (∃ sanitized, sanitizePayload payload options = .ok sanitized) ↔
      ∀ name value, payload.lookup name = some value →
        ¬ MeetsBrokenRuleOf (getItems options) name value := by
  rw [← Object.forall_entries (p := fun name value =>
    ¬ MeetsBrokenRuleOf (getItems options) name value), ← valid_entries_returns_iff]
  constructor
  · intro h
    obtain ⟨sanitized, hsanitized⟩ := h
    obtain ⟨entries, hentries, -⟩ := bind_ok_iff.mp hsanitized
    exact ⟨entries, hentries⟩
  · intro h
    obtain ⟨entries, hentries⟩ := h
    exact ⟨_, bind_ok_iff.mpr ⟨entries, hentries, rfl⟩⟩

/-- Entries that the rules allow can be checked. -/
theorem not_meets_of_accepts {name : String} (h : AcceptsField options name value) :
    ¬ MeetsBrokenRuleOf (getItems options) name value := by
  intro hmeets
  obtain ⟨hname, item, hitem, hbroken⟩ := hmeets
  exact validate_field_returns_iff.mp ⟨none, h hname⟩ item hitem hbroken

/-- A sanitized payload has allowed entries only. -/
theorem accepts_of_sanitized (h : sanitizePayload payload options = .ok sanitized)
    {name : String} (hlookup : sanitized.lookup name = some value) :
    AcceptsField options name value :=
  fun hname => ((lookup_sanitized h hname).mp hlookup).2

/-- The errors of a payload whose entries are allowed are those of the required items. -/
theorem collect_errors_of_accepts
    (h : ∀ name value, payload.lookup name = some value → AcceptsField options name value)
    (hpresence : options.strictPresence = true) :
    collectErrors payload options = .ok (validateRequiredItems payload options) := by
  have hfields : fieldErrors options payload.entries = .ok [] :=
    field_errors_nil_iff.mpr (Object.forall_entries.mpr h)
  rw [collectErrors, hfields, ok_bind, if_pos hpresence]
  rfl

/-- The rules of a section do not depend on the policy. -/
theorem collect_errors_policy (payload : DevicePayload) (config : DeviceConfig)
    (payloadSection : DeviceConfigSection) (policy other : DeviceConfigValidationPolicy) :
    collectErrors payload (buildOptions config payloadSection policy) =
      collectErrors payload (buildOptions config payloadSection other) := by
  have hentries : ∀ entries, fieldErrors (buildOptions config payloadSection policy) entries =
      fieldErrors (buildOptions config payloadSection other) entries := by
    intro entries
    induction entries with
    | nil => rfl
    | cons entry entries ih =>
        rw [fieldErrors, fieldErrors, ih]
        rfl
  rw [collectErrors, collectErrors, hentries]
  rfl

/-! ## The policy of a section -/

section Sections

variable {configs : List DeviceConfig} {key : DeviceKey} {payloadSection : DeviceConfigSection}
  {config : DeviceConfig}

/-- What the policy `sanitize` promises about a section that a config declares. -/
structure Sanitizes (configs : List DeviceConfig) (key : DeviceKey)
    (payloadSection : DeviceConfigSection) (config : DeviceConfig)
    (payload sanitized : DevicePayload) : Prop where
  entries : ∀ name value, name ≠ devicePayloadOverrideKey →
    (sanitized.lookup name = some value ↔ payload.lookup name = some value ∧
      validateField (buildOptions config payloadSection .sanitize) name value = .ok none)
  override : sanitized.lookup devicePayloadOverrideKey =
    (payload.lookup devicePayloadOverrideKey).map fun flag =>
      .bool (flag.strictEq (.bool true) || flag.strictEq (.string "true"))
  again : ∃ again, validateSection configs key payloadSection sanitized .sanitize = .ok again ∧
    Object.SameFields again.payload sanitized
  violations : collectPayloadErrors configs key payloadSection sanitized =
    .ok (validateRequiredItems sanitized (buildOptions config payloadSection .reject))
  rejected : ∀ accepted, validateSection configs key payloadSection payload .reject = .ok accepted →
    Object.SameFields sanitized accepted.payload

/-- A section that a config declares is validated by the rules of the config. -/
theorem validate_section_eq {policy : DeviceConfigValidationPolicy}
    (hconfig : getConfig configs key = some config)
    (hsection : (config.items payloadSection).isSome = true) :
    validateSection configs key payloadSection payload policy = (do
      let validated ← validatePayload payload (buildOptions config payloadSection policy)
      return ⟨validated, false⟩) := by
  obtain ⟨items, hitems⟩ := Option.isSome_iff_exists.mp hsection
  simp only [validateSection, hconfig, hitems]

/-- The flag of a sanitized payload. -/
theorem lookup_sanitized_override
    (h : sanitizePayload payload (buildOptions config payloadSection .sanitize) = .ok sanitized) :
    sanitized.lookup devicePayloadOverrideKey =
      (payload.lookup devicePayloadOverrideKey).map fun flag =>
        .bool (flag.strictEq (.bool true) || flag.strictEq (.string "true")) :=
  lookup_validated_override
    (show validatePayload payload (buildOptions config payloadSection .sanitize) = _ from h)

/-- Sanitizing again changes nothing: every entry is allowed, and the flag is a boolean. -/
theorem same_fields_of_sanitized_again {again : DevicePayload}
    (h : sanitizePayload payload (buildOptions config payloadSection .sanitize) = .ok sanitized)
    (hagain : sanitizePayload sanitized (buildOptions config payloadSection .sanitize) =
      .ok again) : Object.SameFields again sanitized := by
  intro name
  by_cases hname : name = devicePayloadOverrideKey
  · rw [hname, lookup_sanitized_override hagain, lookup_sanitized_override h, Option.map_map]
    refine congrArg (fun normalize => Option.map normalize _) (funext fun flag => ?_)
    rw [Function.comp_apply]
    cases flag.strictEq (.bool true) || flag.strictEq (.string "true") <;> rfl
  · apply Option.ext
    intro value
    rw [lookup_sanitized hagain hname, and_iff_left_iff_imp]
    exact fun hlookup => accepts_of_sanitized h hlookup hname

/-- A payload that the policy `reject` accepts is sanitized to the same fields. -/
theorem same_fields_of_accepted {accepted : DevicePayload}
    (h : sanitizePayload payload (buildOptions config payloadSection .sanitize) = .ok sanitized)
    (haccepted : validatePayload payload (buildOptions config payloadSection .reject) =
      .ok accepted) : Object.SameFields sanitized accepted := by
  intro name
  by_cases hname : name = devicePayloadOverrideKey
  · rw [hname, lookup_validated_override haccepted, lookup_sanitized_override h]
  · apply Option.ext
    intro value
    rw [lookup_sanitized h hname, lookup_validated haccepted hname]
    rfl

/-- A section is sanitized as the policy promises exactly when no entry of the payload is checked
against a rule that throws. -/
theorem sanitizes_iff (configs : List DeviceConfig) (key : DeviceKey)
    (payloadSection : DeviceConfigSection) (config : DeviceConfig) (payload : DevicePayload)
    (hconfig : getConfig configs key = some config)
    (hsection : (config.items payloadSection).isSome = true) :
    (∃ result, validateSection configs key payloadSection payload .sanitize = .ok result ∧
      Sanitizes configs key payloadSection config payload result.payload) ↔
      ∀ name value, payload.lookup name = some value →
        ¬ MeetsBrokenRuleOf ((config.items payloadSection).getD []) name value := by
  have hsanitize : ∀ payload : DevicePayload,
      validateSection configs key payloadSection payload .sanitize = (do
        let sanitized ← sanitizePayload payload (buildOptions config payloadSection .sanitize)
        return ⟨sanitized, false⟩) :=
    fun payload => validate_section_eq hconfig hsection
  have hreturns : ∀ payload : DevicePayload,
      (∃ sanitized,
        sanitizePayload payload (buildOptions config payloadSection .sanitize) = .ok sanitized) ↔
        ∀ name value, payload.lookup name = some value →
          ¬ MeetsBrokenRuleOf ((config.items payloadSection).getD []) name value :=
    fun payload => sanitize_returns_iff
  rw [← hreturns]
  constructor
  · intro h
    obtain ⟨result, hresult, -⟩ := h
    rw [hsanitize] at hresult
    obtain ⟨sanitized, hsanitized, -⟩ := bind_ok_iff.mp hresult
    exact ⟨sanitized, hsanitized⟩
  · intro h
    obtain ⟨sanitized, hsanitized⟩ := h
    refine ⟨⟨sanitized, false⟩, by rw [hsanitize, hsanitized]; rfl, ?_⟩
    have haccepts := fun name value (hlookup : sanitized.lookup name = some value) =>
      accepts_of_sanitized hsanitized hlookup
    refine ⟨fun name value hname => lookup_sanitized hsanitized hname,
      lookup_sanitized_override hsanitized, ?_, ?_, ?_⟩
    · obtain ⟨again, hagain⟩ := (hreturns sanitized).mpr fun name value hlookup =>
        not_meets_of_accepts (haccepts name value hlookup)
      refine ⟨⟨again, false⟩, by rw [hsanitize, hagain]; rfl, ?_⟩
      exact same_fields_of_sanitized_again hsanitized hagain
    · obtain ⟨items, hitems⟩ := Option.isSome_iff_exists.mp hsection
      have herrors := collect_errors_of_accepts haccepts rfl
      rw [collect_errors_policy _ _ _ _ .reject] at herrors
      simp only [collectPayloadErrors, hconfig, hitems]
      exact herrors
    · intro accepted haccepted
      exact same_fields_of_accepted hsanitized
        (validate_section_of_config hconfig hsection haccepted).2

end Sections

end Rules

/-! ## A lamp -/

/-- The config of lamps with a switch, a brightness up to a hundred and a name, whose pattern is no
regular expression. -/
def ledConfig : DeviceConfig where
  brand := .esp32
  type := .led
  transportProtocol := .mqtt
  controls := some
    [{ label := .string "Power", name := .string "on", type := .boolean },
      { label := .string "Brightness", name := .string "brightness", type := .number
        constraints := some { max := .number (.finite 100) } },
      { label := .string "Name", name := .string "name", type := .string
        constraints := some { pattern := .string "[" } }]

/-- A lamp reports a brightness that is too high, with the flag set. -/
def brightReport : DevicePayload :=
  .ofAssignments [⟨"on", .bool true⟩, ⟨"brightness", .number (.finite 200)⟩,
    ⟨devicePayloadOverrideKey, .string "true"⟩]

/-- A lamp reports its name. -/
def nameReport : DevicePayload :=
  .ofAssignments [⟨"on", .bool true⟩, ⟨"name", .string "Kitchen"⟩]

/-- No entry of the first report reaches the pattern, so it is sanitized as promised. -/
theorem sanitizes_iff_bright_report :
    ∃ result, @validateSection .unused [ledConfig] ledConfig.key .controls brightReport
        .sanitize = .ok result ∧
      @Sanitizes .unused [ledConfig] ledConfig.key .controls ledConfig
        brightReport result.payload := by
  refine (@sanitizes_iff .unused [ledConfig] ledConfig.key .controls ledConfig
    brightReport rfl rfl).mpr fun name value hlookup hmeets => ?_
  obtain ⟨hname, item, -, -, s, rfl, -⟩ := hmeets
  -- the only text of the report is its flag
  have hmem := Object.mem_of_lookup_of_assignments hlookup
  simp only [List.mem_cons, Sigma.mk.injEq, heq_eq_eq, reduceCtorEq, and_false, false_or,
    List.not_mem_nil, or_false] at hmem
  exact hname hmem.1

/-- The name is tested with a pattern that is no regular expression: the whole report is lost
instead of the name. -/
theorem name_report_not_sanitized :
    getConfig [ledConfig] ledConfig.key = some ledConfig ∧
      (ledConfig.items .controls).isSome = true ∧
      ¬ ∃ result, @validateSection .unused [ledConfig] ledConfig.key .controls
          nameReport .sanitize = .ok result ∧
        @Sanitizes .unused [ledConfig] ledConfig.key .controls ledConfig
          nameReport result.payload := by
  refine ⟨rfl, rfl, fun h => ?_⟩
  obtain ⟨result, hresult, -⟩ := h
  cases hresult

end MyHomeHub.ConfigsValidator
