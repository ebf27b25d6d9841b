import MyHomeHub.DeviceConfigs.Sanitizing
import MyHomeHub.Devices.OverrideReading
import MyHomeHub.Library.Overlays

/-!
# What a payload changes in a section

The update of a device by itself sanitizes a payload and merges it into the stored section.
`sectionChange` reads off the payload what this changes, and `merge_returns_iff` says when
the merge is accepted.
-/

namespace MyHomeHub.ControlService

open JavaScript ConfigsValidator Library

section

variable [ExternalCalls]

/-- The config of a device, if it declares a section. -/
def declaringConfig (configs : List DeviceConfig) (key : DeviceKey)
    (payloadSection : DeviceConfigSection) : Option DeviceConfig :=
  (getConfig configs key).filter fun config => (config.items payloadSection).isSome

/-- The rules of a section find no error in an entry. -/
def allowsEntry (options : PayloadValidationOptions) (name : String) (value : Value) : Bool :=
  match validateField options name value with
  | .ok none => true
  | _ => false

instance (payload : DevicePayload) : Decidable (SetsOverride payload) :=
  inferInstanceAs (Decidable (_ ∨ _))

/-- The change that a payload makes to a section: it sets the entries that the config allows, and
the flag says whether it replaces what is stored. -/
def sectionChange (configs : List DeviceConfig) (key : DeviceKey)
    (payloadSection : DeviceConfigSection) (payload : DevicePayload) : Change String Value :=
  let sent := payload.erase devicePayloadOverrideKey
  match declaringConfig configs key payloadSection with
  | none => ⟨sent.lookup, decide (RawOverride payload)⟩
  | some config =>
      let options := buildOptions config payloadSection .sanitize
      ⟨fun name => (sent.lookup name).filter (allowsEntry options name),
        decide (SetsOverride payload)⟩

/-- A section takes a payload: no entry is checked against a rule that throws, and the class accepts
the values that are stored in the end. -/
structure TakesPayload (configs : List DeviceConfig) (key : DeviceKey)
    (payloadSection : DeviceConfigSection) (dto : PayloadDto) (payload stored : DevicePayload) :
    Prop where
  entries : ∀ config, declaringConfig configs key payloadSection = some config →
    ∀ name value, payload.lookup name = some value →
      ¬ MeetsBrokenRuleOf ((config.items payloadSection).getD []) name value
  properties : ∀ property ∈ dto, ∀ value,
    (sectionChange configs key payloadSection payload).onto stored.lookup property.name =
      some value →
    value.isNullish = false → ∀ rule ∈ property.rules, rule.accepts value = true

variable {configs : List DeviceConfig} {key : DeviceKey} {payloadSection : DeviceConfigSection}
  {config : DeviceConfig} {dto : PayloadDto} {payload stored : DevicePayload}

omit [ExternalCalls] in
theorem declaring_config_some_iff :
    declaringConfig configs key payloadSection = some config ↔
      getConfig configs key = some config ∧ (config.items payloadSection).isSome = true :=
  Option.filter_eq_some_iff

omit [ExternalCalls] in
theorem declaring_config_none_iff :
    declaringConfig configs key payloadSection = none ↔
      (getConfig configs key).bind (·.items payloadSection) = none := by
  rw [declaringConfig, Option.filter_eq_none_iff, Option.bind_eq_none_iff]
  refine forall₂_congr fun config _ => ?_
  rw [Bool.not_eq_true, Option.isSome_eq_false_iff, Option.isNone_iff_eq_none]

theorem allows_entry_iff {options : PayloadValidationOptions} {name : String} {value : Value} :
    allowsEntry options name value = true ↔ validateField options name value = .ok none := by
  unfold allowsEntry
  split
  · rename_i hvalid
    exact iff_of_true rfl hvalid
  · rename_i hother
    exact iff_of_false Bool.false_ne_true hother

/-- The merge of a validated payload lays its change over the stored section. -/
theorem lookup_merged {validated : ValidatedSection}
    (h : validateSection configs key payloadSection payload .sanitize = .ok validated)
    (name : String) :
    (mergePayload validated.payload stored).1.lookup name =
      (sectionChange configs key payloadSection payload).onto stored.lookup name := by
  rw [lookup_merge_payload, Change.onto, sectionChange]
  cases hdeclared : declaringConfig configs key payloadSection with
  | none =>
      rw [validate_section_of_no_config (declaring_config_none_iff.mp hdeclared) h]
      simp only [decide_eq_true_eq]
      rfl
  | some config =>
      obtain ⟨hconfig, hsection⟩ := declaring_config_some_iff.mp hdeclared
      have hvalidated := (validate_section_of_config hconfig hsection h).2
      have hflag := truthy_validated_override hvalidated
      have hsets : (validated.payload.erase devicePayloadOverrideKey).lookup name =
          ((payload.erase devicePayloadOverrideKey).lookup name).filter
            (allowsEntry (buildOptions config payloadSection .sanitize) name) := by
        rw [lookup_erase_override, lookup_erase_override]
        by_cases hname : name = devicePayloadOverrideKey
        · rw [if_pos hname, if_pos hname, Option.filter_none]
        · rw [if_neg hname, if_neg hname]
          apply Option.ext
          intro value
          rw [lookup_validated hvalidated hname, Option.filter_eq_some_iff, allows_entry_iff]
      simp only [hsets, hflag, decide_eq_true_eq]

/-- A merge validates the payload, and the class accepts the result. -/
theorem merge_validate_of_errors {validated : ValidatedSection}
    (h : validateSection configs key payloadSection payload .sanitize = .ok validated)
    (herrors : dto.errors (mergePayload validated.payload stored).1 = []) :
    ∃ result, mergeValidate configs key payloadSection dto payload (fun _ => stored) .sanitize =
      .ok result := by
  have hdto : validateDto (mergePayload validated.payload stored).1 dto =
      .ok (mergePayload validated.payload stored).1 := by
    rw [validateDto, herrors]
  exact ⟨_, bind_ok_iff.mpr ⟨validated, h, bind_ok_iff.mpr ⟨_, hdto, rfl⟩⟩⟩

/-- The payload of a section can be sanitized exactly when no entry is checked against a rule that
throws. -/
theorem validate_section_returns_iff :
    (∃ validated, validateSection configs key payloadSection payload .sanitize = .ok validated) ↔
      ∀ config, declaringConfig configs key payloadSection = some config →
        ∀ name value, payload.lookup name = some value →
          ¬ MeetsBrokenRuleOf ((config.items payloadSection).getD []) name value := by
  cases hdeclared : declaringConfig configs key payloadSection with
  | none =>
      refine iff_of_true ⟨⟨payload, true⟩, ?_⟩ fun config hconfig => by cases hconfig
      have hnone := declaring_config_none_iff.mp hdeclared
      rw [validateSection]
      cases hconfig : getConfig configs key with
      | none => rfl
      | some config =>
          rw [hconfig, Option.bind_some] at hnone
          simp only [hnone]
  | some config =>
      obtain ⟨hconfig, hsection⟩ := declaring_config_some_iff.mp hdeclared
      have hreturns : (∃ sanitized,
          sanitizePayload payload (buildOptions config payloadSection .sanitize) =
            .ok sanitized) ↔
          ∀ name value, payload.lookup name = some value →
            ¬ MeetsBrokenRuleOf ((config.items payloadSection).getD []) name value :=
        sanitize_returns_iff
      rw [validate_section_eq hconfig hsection]
      refine Iff.trans ⟨fun h => ?_, fun h => ?_⟩ (hreturns.trans ?_)
      · obtain ⟨validated, hvalidated⟩ := h
        obtain ⟨sanitized, hsanitized, -⟩ := bind_ok_iff.mp hvalidated
        exact ⟨sanitized, hsanitized⟩
      · obtain ⟨sanitized, hsanitized⟩ := h
        exact ⟨_, bind_ok_iff.mpr ⟨sanitized, hsanitized, rfl⟩⟩
      · constructor
        · intro h other hother
          cases hother
          exact h
        · exact fun h => h config rfl

/-- A merge is accepted exactly when the section takes the payload. -/
theorem merge_returns_iff :
    (∃ result, mergeValidate configs key payloadSection dto payload (fun _ => stored) .sanitize =
      .ok result) ↔ TakesPayload configs key payloadSection dto payload stored := by
  have hclass {validated : ValidatedSection}
      (h : validateSection configs key payloadSection payload .sanitize = .ok validated) :
      dto.errors (mergePayload validated.payload stored).1 = [] ↔
        ∀ property ∈ dto, ∀ value,
          (sectionChange configs key payloadSection payload).onto stored.lookup property.name =
            some value →
          value.isNullish = false → ∀ rule ∈ property.rules, rule.accepts value = true := by
    rw [PayloadDto.errors_nil_iff]
    refine forall₂_congr fun property _ => ?_
    rw [Object.get, lookup_merged h]
    cases (sectionChange configs key payloadSection payload).onto stored.lookup property.name with
    | none => exact iff_of_true (fun hsome => by cases hsome) fun value hvalue => by cases hvalue
    | some value =>
        constructor
        · intro haccepts other hother
          cases hother
          exact haccepts
        · exact fun haccepts => haccepts value rfl
  constructor
  · intro h
    obtain ⟨result, hresult⟩ := h
    obtain ⟨validated, hvalidated, -, hmerged, herrors⟩ := merge_validate_ok hresult
    rw [hmerged] at herrors
    exact ⟨validate_section_returns_iff.mp ⟨validated, hvalidated⟩,
      (hclass hvalidated).mp herrors⟩
  · intro h
    obtain ⟨validated, hvalidated⟩ := validate_section_returns_iff.mpr h.entries
    exact merge_validate_of_errors hvalidated ((hclass hvalidated).mpr h.properties)

/-- An accepted merge lays the change over the stored section. -/
theorem lookup_of_merge {result : MergedPayload}
    (h : mergeValidate configs key payloadSection dto payload (fun _ => stored) .sanitize =
      .ok result) (name : String) :
    result.merged.lookup name =
      (sectionChange configs key payloadSection payload).onto stored.lookup name := by
  obtain ⟨validated, hvalidated, -, hmerged, -⟩ := merge_validate_ok h
  rw [hmerged, lookup_merged hvalidated]

end

end MyHomeHub.ControlService
