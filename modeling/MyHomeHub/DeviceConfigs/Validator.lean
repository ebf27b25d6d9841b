import MyHomeHub.DeviceConfigs.ItemValidators

/-!
# The device configs validator

`device-configs-validator.service`: what a device config makes of a payload. Under the
policy `reject` a violation rejects the payload, under `sanitize` the violating entries
are dropped. The `$override` flag is no item: it is carried along and normalised to a
boolean.

Each function has one lemma that says what its success means, and the services above use
these lemmas only.
-/

namespace MyHomeHub.ConfigsValidator

open JavaScript

/-- `PayloadValidationOptions`. -/
structure PayloadValidationOptions where
  config : DeviceConfig
  payloadSection : DeviceConfigSection
  strict : Bool
  policy : DeviceConfigValidationPolicy
  strictPresence : Bool

/-- `buildOptions`. -/
def buildOptions (config : DeviceConfig) (payloadSection : DeviceConfigSection)
    (policy : DeviceConfigValidationPolicy) : PayloadValidationOptions :=
  ⟨config, payloadSection, config.isStrict, policy, true⟩

/-- `getItems`. -/
def getItems (options : PayloadValidationOptions) : List DeviceConfigItem :=
  (options.config.items options.payloadSection).getD []

section Functions

variable [ExternalCalls]

/-- `validateField`: the message of a violated rule. -/
def validateField (options : PayloadValidationOptions) (name : String) (value : Value) :
    Except HubError (Option String) :=
  match findItem (getItems options) name with
  | none =>
      .ok (if options.strict then
        some s!"\"{name}\" is not a known {options.payloadSection.text} item of the device"
      else none)
  | some item => validateItemValue item value

/-- `validateRequiredItems`. -/
def validateRequiredItems (payload : DevicePayload) (options : PayloadValidationOptions) :
    List ValidationError :=
  ((getItems options).filter fun item =>
      item.required && payload.isEmptyAt item.name.toString).map fun item =>
    { message := s!"\"{item.name.toString}\" is required and must be provided with every " ++
        s!"{options.payloadSection.text} update"
      path := some s!"{options.payloadSection.text}.{item.name.toString}"
      value := payload.get item.name.toString }

/-- The violations of the entries of a payload, without the flag. -/
def fieldErrors (options : PayloadValidationOptions) :
    List (Σ _ : String, Value) → Except HubError (List ValidationError)
  | [] => .ok []
  | ⟨name, value⟩ :: entries =>
      if name = devicePayloadOverrideKey then fieldErrors options entries
      else do
        let message ← validateField options name value
        let errors ← fieldErrors options entries
        match message with
        | none => return errors
        | some message =>
            return ⟨message, some s!"{options.payloadSection.text}.{name}", value⟩ :: errors

/-- `collectErrors`. -/
def collectErrors (payload : DevicePayload) (options : PayloadValidationOptions) :
    Except HubError (List ValidationError) := do
  let errors ← fieldErrors options payload.entries
  return if options.strictPresence then errors ++ validateRequiredItems payload options
    else errors

/-- `normalizeOverride`: only `true` and the string `true` set the flag. -/
def normalizeOverride (payload source : DevicePayload) : DevicePayload :=
  match source.lookup devicePayloadOverrideKey with
  | none => payload
  | some flag =>
      payload.insert devicePayloadOverrideKey
        (.bool (flag.strictEq (.bool true) || flag.strictEq (.string "true")))

/-- The flag is set the way `normalizeOverride` reads it. -/
def SetsOverride (payload : DevicePayload) : Prop :=
  payload.lookup devicePayloadOverrideKey = some (.bool true) ∨
    payload.lookup devicePayloadOverrideKey = some (.string "true")

/-- The entries of a payload that violate no rule, without the flag. -/
def validEntries (options : PayloadValidationOptions) :
    List (Σ _ : String, Value) → Except HubError (List (Σ _ : String, Value))
  | [] => .ok []
  | ⟨name, value⟩ :: entries =>
      if name = devicePayloadOverrideKey then validEntries options entries
      else do
        let message ← validateField options name value
        let rest ← validEntries options entries
        match message with
        | none => return ⟨name, value⟩ :: rest
        | some _ => return rest

/-- `sanitizePayload`. -/
def sanitizePayload (payload : DevicePayload) (options : PayloadValidationOptions) :
    Except HubError DevicePayload := do
  let entries ← validEntries options payload.entries
  return normalizeOverride (.ofAssignments entries) payload

/-- `validatePayload`. -/
def validatePayload (payload : DevicePayload) (options : PayloadValidationOptions) :
    Except HubError DevicePayload :=
  match options.policy with
  | .reject => do
      let errors ← collectErrors payload options
      if errors.isEmpty then return normalizeOverride payload payload
      else throw (.customValidation errors)
  | .sanitize => sanitizePayload payload options

/-- What `validateSection` returns. Without a config for the section it is the very object it was
given, so that a later change of the result changes the input too. -/
structure ValidatedSection where
  payload : DevicePayload
  isInput : Bool

/-- `validateSection`. -/
def validateSection (configs : List DeviceConfig) (key : DeviceKey)
    (payloadSection : DeviceConfigSection) (payload : DevicePayload)
    (policy : DeviceConfigValidationPolicy) : Except HubError ValidatedSection :=
  match getConfig configs key with
  | none => .ok ⟨payload, true⟩
  | some config =>
      match config.items payloadSection with
      | none => .ok ⟨payload, true⟩
      | some _ => do
          let validated ← validatePayload payload (buildOptions config payloadSection policy)
          return ⟨validated, false⟩

/-- `collectPayloadErrors`. -/
def collectPayloadErrors (configs : List DeviceConfig) (key : DeviceKey)
    (payloadSection : DeviceConfigSection) (payload : DevicePayload) :
    Except HubError (List ValidationError) :=
  match getConfig configs key with
  | none => .ok []
  | some config =>
      match config.items payloadSection with
      | none => .ok []
      | some _ => collectErrors payload (buildOptions config payloadSection .reject)

/-- `collectConditionErrors`. -/
def collectConditionErrors (configs : List DeviceConfig) (key : DeviceKey)
    (payloadSection : DeviceConfigSection) (payload : DevicePayload) :
    Except HubError (List ValidationError) :=
  match getConfig configs key with
  | none => .ok []
  | some config =>
      collectErrors payload
        { buildOptions config payloadSection .reject with strictPresence := false }

end Functions

/-- `buildDefaultPayload`. -/
def buildDefaultPayload (items : Option (List DeviceConfigItem)) : DevicePayload :=
  .ofAssignments ((items.getD []).map fun item => ⟨item.name.toString, getItemDefaultValue item⟩)

/-- `DeviceConfigPayloads`. -/
structure DeviceConfigPayloads where
  controls : DevicePayload
  measurements : DevicePayload

/-- `buildDefaultPayloads`. -/
def buildDefaultPayloads (configs : List DeviceConfig) (key : DeviceKey) : DeviceConfigPayloads :=
  let config := getConfig configs key
  ⟨buildDefaultPayload (config.bind (·.controls)),
    buildDefaultPayload (config.bind (·.measurements))⟩

/-! ## What the functions return -/

section Lemmas

variable [ExternalCalls] {options : PayloadValidationOptions} {payload source : DevicePayload}

/-- Whether the rules allow a field: the flag is allowed everywhere. -/
def AcceptsField (options : PayloadValidationOptions) (name : String) (value : Value) : Prop :=
  name ≠ devicePayloadOverrideKey → validateField options name value = .ok none

/-- A field is allowed when the first item of its name accepts it; one without an item is allowed in
a block that is not strict. -/
theorem validate_field_ok_iff {name : String} {value : Value} :
    validateField options name value = .ok none ↔
      (findItem (getItems options) name = none → options.strict = false) ∧
      ∀ first, findItem (getItems options) name = some first →
        validateItemValue first value = .ok none := by
  unfold validateField
  cases findItem (getItems options) name with
  | none => cases options.strict <;> simp
  | some first => simp

section Entries

variable {name : String} {value : Value} {entries remaining : List (Σ _ : String, Value)}
  {errors : List ValidationError}

/-- An entry other than the flag adds an error if it violates a rule. -/
theorem field_errors_cons_iff (hname : name ≠ devicePayloadOverrideKey) :
    fieldErrors options (⟨name, value⟩ :: entries) = .ok errors ↔
      ∃ message rest, validateField options name value = .ok message ∧
        fieldErrors options entries = .ok rest ∧ errors = (message.map fun message =>
          (⟨message, some s!"{options.payloadSection.text}.{name}", value⟩ :
            ValidationError)).toList ++ rest := by
  rw [fieldErrors, if_neg hname, bind_ok_iff]
  refine exists_congr fun message => ?_
  rw [exists_and_left, bind_ok_iff]
  refine and_congr_right fun _ => exists_congr fun rest => and_congr_right fun _ => ?_
  cases message with
  | none => exact ⟨fun h => (Except.ok.inj h).symm, fun h => h ▸ rfl⟩
  | some message => exact ⟨fun h => (Except.ok.inj h).symm, fun h => h ▸ rfl⟩

/-- An entry other than the flag remains if it violates no rule. -/
theorem valid_entries_cons_iff (hname : name ≠ devicePayloadOverrideKey) :
    validEntries options (⟨name, value⟩ :: entries) = .ok remaining ↔
      ∃ message rest, validateField options name value = .ok message ∧
        validEntries options entries = .ok rest ∧
          remaining = if message = none then ⟨name, value⟩ :: rest else rest := by
  rw [validEntries, if_neg hname, bind_ok_iff]
  refine exists_congr fun message => ?_
  rw [exists_and_left, bind_ok_iff]
  refine and_congr_right fun _ => exists_congr fun rest => and_congr_right fun _ => ?_
  cases message with
  | none => exact ⟨fun h => (Except.ok.inj h).symm, fun h => h ▸ rfl⟩
  | some message => exact ⟨fun h => (Except.ok.inj h).symm, fun h => h ▸ rfl⟩

end Entries

/-- No violation is found exactly when every entry is allowed. -/
theorem field_errors_nil_iff {entries : List (Σ _ : String, Value)} :
    fieldErrors options entries = .ok [] ↔
      ∀ entry ∈ entries, AcceptsField options entry.1 entry.2 := by
  induction entries with
  | nil => simp [fieldErrors]
  | cons entry entries ih =>
      obtain ⟨name, value⟩ := entry
      rw [List.forall_mem_cons, ← ih]
      by_cases hname : name = devicePayloadOverrideKey
      · rw [fieldErrors, if_pos hname]
        exact (and_iff_right fun hne => absurd hname hne).symm
      · rw [field_errors_cons_iff hname, AcceptsField, imp_iff_right hname]
        constructor
        · intro h
          obtain ⟨message, rest, hfield, hrest, hnil⟩ := h
          obtain ⟨hmessage, rfl⟩ := List.append_eq_nil_iff.mp hnil.symm
          cases message with
          | none => exact ⟨hfield, hrest⟩
          | some message => cases hmessage
        · intro h
          obtain ⟨hfield, hrest⟩ := h
          exact ⟨none, [], hfield, hrest, rfl⟩

/-- Without the check of required items, no violation is found exactly when every entry is
allowed. -/
theorem collect_errors_nil_iff (hpresence : options.strictPresence = false) :
    collectErrors payload options = .ok [] ↔
      ∀ name value, payload.lookup name = some value → AcceptsField options name value := by
  rw [← Object.forall_entries (p := AcceptsField options), ← field_errors_nil_iff, collectErrors,
    hpresence]
  cases fieldErrors options payload.entries with
  | error error => simp [bind, Except.bind]
  | ok errors => simp [bind, Except.bind, pure, Except.pure]

/-- A payload without violations has allowed entries only. -/
theorem accepts_of_collect_errors_nil (h : collectErrors payload options = .ok [])
    {name : String} {value : Value} (hlookup : payload.lookup name = some value) :
    AcceptsField options name value := by
  have herrors : fieldErrors options payload.entries = .ok [] := by
    rw [collectErrors] at h
    cases hfield : fieldErrors options payload.entries with
    | error error => simp [hfield, bind, Except.bind] at h
    | ok errors =>
        simp only [hfield, bind, Except.bind, pure, Except.pure, Except.ok.injEq] at h
        split at h
        · rw [(List.append_eq_nil_iff.mp h).1]
        · rw [h]
  exact field_errors_nil_iff.mp herrors ⟨name, value⟩ (AList.mem_lookup_iff.mp hlookup)

omit [ExternalCalls] in
/-- The flag of a normalised payload. -/
theorem lookup_normalize_override (name : String) :
    (normalizeOverride payload source).lookup name =
      if name = devicePayloadOverrideKey then
        ((source.lookup devicePayloadOverrideKey).map fun flag =>
          .bool (flag.strictEq (.bool true) || flag.strictEq (.string "true"))).or
            (payload.lookup name)
      else payload.lookup name := by
  rw [normalizeOverride]
  by_cases hname : name = devicePayloadOverrideKey
  · subst hname
    cases source.lookup devicePayloadOverrideKey with
    | none => simp
    | some flag => simp [AList.lookup_insert]
  · rw [if_neg hname]
    cases source.lookup devicePayloadOverrideKey with
    | none => rfl
    | some flag => rw [AList.lookup_insert_ne hname]

/-- The entries that remain are allowed entries of the payload. -/
theorem mem_valid_entries {entries remaining : List (Σ _ : String, Value)}
    (h : validEntries options entries = .ok remaining) (entry : Σ _ : String, Value) :
    entry ∈ remaining ↔ entry ∈ entries ∧ entry.1 ≠ devicePayloadOverrideKey ∧
      validateField options entry.1 entry.2 = .ok none := by
  induction entries generalizing remaining with
  | nil =>
      rw [validEntries, Except.ok.injEq] at h
      simp [← h]
  | cons first entries ih =>
      obtain ⟨name, value⟩ := first
      by_cases hname : name = devicePayloadOverrideKey
      · -- the flag is left out here, and `normalizeOverride` puts it back
        rw [validEntries, if_pos hname] at h
        rw [ih h, List.mem_cons]
        constructor
        · intro h
          obtain ⟨hmem, hrest⟩ := h
          exact ⟨.inr hmem, hrest⟩
        · intro h
          obtain ⟨rfl | hmem, hne, hvalid⟩ := h
          · exact absurd hname hne
          · exact ⟨hmem, hne, hvalid⟩
      · obtain ⟨message, rest, hfield, hrest, rfl⟩ := (valid_entries_cons_iff hname).mp h
        have hmem := ih hrest
        split
        · rename_i hnone
          rw [List.mem_cons, List.mem_cons, hmem]
          constructor
          · intro h
            rcases h with rfl | ⟨hentry, hne, hvalid⟩
            · exact ⟨.inl rfl, hname, hnone ▸ hfield⟩
            · exact ⟨.inr hentry, hne, hvalid⟩
          · intro h
            obtain ⟨rfl | hentry, hne, hvalid⟩ := h
            · exact .inl rfl
            · exact .inr ⟨hentry, hne, hvalid⟩
        · rename_i hsome
          rw [hmem, List.mem_cons]
          constructor
          · intro h
            obtain ⟨hentry, hne, hvalid⟩ := h
            exact ⟨.inr hentry, hne, hvalid⟩
          · intro h
            obtain ⟨rfl | hentry, hne, hvalid⟩ := h
            · exact absurd (Except.ok.inj (hfield.symm.trans hvalid)) hsome
            · exact ⟨hentry, hne, hvalid⟩

/-- A sanitized payload holds exactly the allowed entries. -/
theorem lookup_sanitized {sanitized : DevicePayload}
    (h : sanitizePayload payload options = .ok sanitized) {name : String}
    (hname : name ≠ devicePayloadOverrideKey) {value : Value} :
    sanitized.lookup name = some value ↔
      payload.lookup name = some value ∧ validateField options name value = .ok none := by
  rw [sanitizePayload] at h
  cases hentries : validEntries options payload.entries with
  | error error => simp [hentries, bind, Except.bind] at h
  | ok entries =>
      simp only [hentries, bind, Except.bind, pure, Except.pure, Except.ok.injEq] at h
      have hmem := mem_valid_entries hentries
      rw [← h, lookup_normalize_override, if_neg hname, Object.lookup_of_assignments, hmem]
      · simp [hname, ← AList.mem_lookup_iff]
      · intro a b ha hb
        have ha := AList.mem_lookup_iff.mpr ((hmem _).mp ha).1
        have hb := AList.mem_lookup_iff.mpr ((hmem _).mp hb).1
        exact Option.some.inj (ha.symm.trans hb)

/-- What the two policies do with an accepted payload: either no entry violates a rule and only the
flag changes, or the payload is sanitized. -/
theorem validate_payload_cases {validated : DevicePayload}
    (h : validatePayload payload options = .ok validated) :
    (options.policy = .reject ∧ collectErrors payload options = .ok [] ∧
      validated = normalizeOverride payload payload) ∨
    (options.policy = .sanitize ∧ sanitizePayload payload options = .ok validated) := by
  rw [validatePayload] at h
  cases hpolicy : options.policy with
  | reject =>
      rw [hpolicy] at h
      cases herrors : collectErrors payload options with
      | error error => simp [herrors, bind, Except.bind] at h
      | ok errors =>
          simp only [herrors, bind, Except.bind] at h
          split at h
          · rename_i hempty
            cases h
            exact .inl ⟨rfl, by rw [List.isEmpty_iff.mp hempty], rfl⟩
          · cases h
  | sanitize =>
      rw [hpolicy] at h
      exact .inr ⟨rfl, h⟩

/-- A validated payload holds exactly the entries of the payload that the rules allow. -/
theorem lookup_validated {validated : DevicePayload}
    (h : validatePayload payload options = .ok validated) {name : String}
    (hname : name ≠ devicePayloadOverrideKey) {value : Value} :
    validated.lookup name = some value ↔
      payload.lookup name = some value ∧ validateField options name value = .ok none := by
  rcases validate_payload_cases h with ⟨-, herrors, rfl⟩ | ⟨-, hsanitize⟩
  · rw [lookup_normalize_override, if_neg hname]
    exact ⟨fun hlookup => ⟨hlookup, accepts_of_collect_errors_nil herrors hlookup hname⟩,
      fun hlookup => hlookup.1⟩
  · exact lookup_sanitized hsanitize hname

/-- The flag of a validated payload: it is there exactly when the payload has it, as a boolean. -/
theorem lookup_validated_override {validated : DevicePayload}
    (h : validatePayload payload options = .ok validated) :
    validated.lookup devicePayloadOverrideKey =
      (payload.lookup devicePayloadOverrideKey).map fun flag =>
        .bool (flag.strictEq (.bool true) || flag.strictEq (.string "true")) := by
  rcases validate_payload_cases h with ⟨-, -, rfl⟩ | ⟨-, hsanitize⟩
  · rw [lookup_normalize_override, if_pos rfl]
    cases payload.lookup devicePayloadOverrideKey <;> simp
  · rw [sanitizePayload] at hsanitize
    cases hentries : validEntries options payload.entries with
    | error error => simp [hentries, bind, Except.bind] at hsanitize
    | ok entries =>
        simp only [hentries, bind, Except.bind, pure, Except.pure, Except.ok.injEq] at hsanitize
        have hnone : (Object.ofAssignments entries).lookup devicePayloadOverrideKey = none := by
          rw [AList.lookup_eq_none, Object.mem_of_assignments]
          intro h
          obtain ⟨value, hvalue⟩ := h
          exact ((mem_valid_entries hentries _).mp hvalue).2.1 rfl
        rw [← hsanitize, lookup_normalize_override, if_pos rfl, hnone, Option.or_none]

/-- The flag of a validated payload counts as set exactly when the payload sets it. -/
theorem truthy_validated_override {validated : DevicePayload}
    (h : validatePayload payload options = .ok validated) :
    (validated.get devicePayloadOverrideKey).truthy = true ↔ SetsOverride payload := by
  rw [Object.get, lookup_validated_override h, SetsOverride]
  cases payload.lookup devicePayloadOverrideKey with
  | none => simp [Value.truthy]
  | some flag => cases flag <;> simp [Value.truthy, Value.strictEq]

/-- Under a config that declares the section, a section is validated by its rules. -/
theorem validate_section_of_config {configs : List DeviceConfig} {key : DeviceKey}
    {payloadSection : DeviceConfigSection} {policy : DeviceConfigValidationPolicy}
    {config : DeviceConfig} {result : ValidatedSection}
    (hconfig : getConfig configs key = some config)
    (hsection : (config.items payloadSection).isSome = true)
    (h : validateSection configs key payloadSection payload policy = .ok result) :
    result.isInput = false ∧
      validatePayload payload (buildOptions config payloadSection policy) = .ok result.payload := by
  obtain ⟨items, hitems⟩ := Option.isSome_iff_exists.mp hsection
  simp only [validateSection, hconfig, hitems] at h
  cases hpayload : validatePayload payload (buildOptions config payloadSection policy) with
  | error error => simp [hpayload, bind, Except.bind] at h
  | ok validated =>
      simp only [hpayload, bind, Except.bind, pure, Except.pure, Except.ok.injEq] at h
      rw [← h]
      exact ⟨rfl, rfl⟩

/-- Without a config that declares the section, the payload is returned as it is. -/
theorem validate_section_of_no_config {configs : List DeviceConfig} {key : DeviceKey}
    {payloadSection : DeviceConfigSection} {policy : DeviceConfigValidationPolicy}
    {result : ValidatedSection}
    (hsection : (getConfig configs key).bind (·.items payloadSection) = none)
    (h : validateSection configs key payloadSection payload policy = .ok result) :
    result = ⟨payload, true⟩ := by
  rw [validateSection] at h
  cases hconfig : getConfig configs key with
  | none =>
      rw [hconfig] at h
      cases h
      rfl
  | some config =>
      rw [hconfig, Option.bind_some] at hsection
      rw [hconfig] at h
      simp only [hsection] at h
      cases h
      rfl

end Lemmas

end MyHomeHub.ConfigsValidator
