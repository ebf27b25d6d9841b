import MyHomeHub.Devices.ControlService

/-!
# How the override flag is read

A merge replaces the stored payload when the flag of the incoming one is set. A device
config normalises the flag before, and without a config for the section its raw value
decides. `merged_as_asked_iff` says when the two readings come to the same.
-/

namespace MyHomeHub.ControlService

open JavaScript ConfigsValidator

/-- The payload that a merge has to store: the accepted entries replace the stored ones if the
incoming flag is `true` or the text `true`, and they are merged into them otherwise. -/
structure MergedAsAsked (incoming stored accepted merged : DevicePayload) : Prop where
  replaced : SetsOverride incoming → Object.SameFields merged accepted
  kept : ¬ SetsOverride incoming → Object.SameFields merged (Object.spread stored accepted)

/-- The device has a config that declares the section. -/
def DeclaresSection (configs : List DeviceConfig) (key : DeviceKey)
    (payloadSection : DeviceConfigSection) : Prop :=
  ((getConfig configs key).bind (·.items payloadSection)).isSome = true

instance (configs : List DeviceConfig) (key : DeviceKey) (payloadSection : DeviceConfigSection) :
    Decidable (DeclaresSection configs key payloadSection) :=
  inferInstanceAs (Decidable (_ = _))

/-- The raw flag of a payload counts as set. -/
def RawOverride (payload : DevicePayload) : Prop :=
  (payload.get devicePayloadOverrideKey).truthy = true

instance (payload : DevicePayload) : Decidable (RawOverride payload) :=
  inferInstanceAs (Decidable (_ = _))

variable {incoming stored accepted : DevicePayload}

/-- A flag that is set is set for the raw reading, too. -/
theorem raw_override_of_sets (h : SetsOverride incoming) : RawOverride incoming := by
  unfold RawOverride Object.get
  rcases h with h | h
  · rw [h]
    rfl
  · rw [h]
    rfl

/-- Without the stored entries a payload stays the same exactly when it has all of their names. -/
theorem same_fields_spread_iff :
    Object.SameFields accepted (Object.spread stored accepted) ↔
      ∀ name ∈ stored, name ∈ accepted := by
  constructor
  · intro h name hname
    have hspread : name ∈ Object.spread stored accepted := Object.mem_spread.mpr (.inr hname)
    rw [← AList.lookup_isSome, ← h name] at hspread
    exact AList.lookup_isSome.mp hspread
  · intro h name
    rw [Object.lookup_spread]
    cases hname : accepted.lookup name with
    | some value => rw [Option.some_or]
    | none =>
        have hstored : name ∉ stored := fun hmem =>
          AList.lookup_eq_none.mp hname (h name hmem)
        rw [AList.lookup_eq_none.mpr hstored, Option.none_or]

/-- A merge stores what its reading of the flag says. -/
theorem merge_payload_eq (payload stored : DevicePayload) :
    (mergePayload payload stored).1 =
      if RawOverride payload then payload.erase devicePayloadOverrideKey
      else Object.spread stored (payload.erase devicePayloadOverrideKey) :=
  rfl

/-- Without a config for the section, the raw flag decides. -/
theorem merged_as_asked_raw_iff :
    MergedAsAsked incoming stored (incoming.erase devicePayloadOverrideKey)
        (mergePayload incoming stored).1 ↔
      (RawOverride incoming → SetsOverride incoming) ∨
        ∀ name ∈ stored, name ∈ incoming.erase devicePayloadOverrideKey := by
  rw [merge_payload_eq]
  by_cases hraw : RawOverride incoming
  · rw [if_pos hraw, imp_iff_right hraw, ← same_fields_spread_iff]
    by_cases hset : SetsOverride incoming
    · exact iff_of_true ⟨fun _ name => rfl, fun h => absurd hset h⟩ (.inl hset)
    · rw [or_iff_right hset]
      exact ⟨fun h => h.kept hset, fun h => ⟨fun h => absurd h hset, fun _ => h⟩⟩
  · rw [if_neg hraw]
    have hset : ¬ SetsOverride incoming := mt raw_override_of_sets hraw
    exact iff_of_true ⟨fun h => absurd h hset, fun _ name => rfl⟩
      (.inl fun h => absurd h hraw)

section Merges

variable [ExternalCalls] {configs : List DeviceConfig} {key : DeviceKey}
  {payloadSection : DeviceConfigSection} {policy : DeviceConfigValidationPolicy}

/-- Under a config that declares the section, the merge reads the flag as asked. -/
theorem merged_as_asked_of_config {validated : ValidatedSection}
    (hsection : DeclaresSection configs key payloadSection)
    (h : validateSection configs key payloadSection incoming policy = .ok validated) :
    MergedAsAsked incoming stored (validated.payload.erase devicePayloadOverrideKey)
      (mergePayload validated.payload stored).1 := by
  obtain ⟨items, hitems⟩ := Option.isSome_iff_exists.mp hsection
  obtain ⟨config, hconfig, hdeclared⟩ := Option.bind_eq_some_iff.mp hitems
  have hvalidated := (validate_section_of_config hconfig (by rw [hdeclared]; rfl) h).2
  have hflag : RawOverride validated.payload ↔ SetsOverride incoming :=
    truthy_validated_override hvalidated
  rw [merge_payload_eq]
  constructor
  · intro hset
    rw [if_pos (hflag.mpr hset)]
    exact fun name => rfl
  · intro hset
    rw [if_neg (mt hflag.mp hset)]
    exact fun name => rfl

/-- A merge that resolves replaces the stored payload exactly when the flag asks for it, if and only
if a config declares the section, or a raw flag that counts as set is `true` or the text `true`, or
nothing that is stored would stay anyway. -/
theorem merged_as_asked_iff (configs : List DeviceConfig) (key : DeviceKey)
    (payloadSection : DeviceConfigSection) (dto : PayloadDto) (incoming stored : DevicePayload)
    (policy : DeviceConfigValidationPolicy) (result : MergedPayload)
    (h : mergeValidate configs key payloadSection dto incoming (fun _ => stored) policy =
      .ok result) :
    (∃ validated, validateSection configs key payloadSection incoming policy = .ok validated ∧
      MergedAsAsked incoming stored (validated.payload.erase devicePayloadOverrideKey)
        result.merged) ↔
      DeclaresSection configs key payloadSection ∨
        (RawOverride incoming → SetsOverride incoming) ∨
        ∀ name ∈ stored, name ∈ incoming.erase devicePayloadOverrideKey := by
  obtain ⟨validated, hvalidated, -, hmerged, -⟩ := merge_validate_ok h
  have hone : (∃ other,
      validateSection configs key payloadSection incoming policy = .ok other ∧
        MergedAsAsked incoming stored (other.payload.erase devicePayloadOverrideKey)
          result.merged) ↔
      MergedAsAsked incoming stored (validated.payload.erase devicePayloadOverrideKey)
        (mergePayload validated.payload stored).1 := by
    rw [hvalidated, hmerged]
    simp
  rw [hone]
  by_cases hsection : DeclaresSection configs key payloadSection
  · exact iff_of_true (merged_as_asked_of_config hsection hvalidated) (.inl hsection)
  · have hnone : (getConfig configs key).bind (·.items payloadSection) = none := by
      rwa [DeclaresSection, Option.not_isSome_iff_eq_none] at hsection
    rw [validate_section_of_no_config hnone hvalidated, or_iff_right hsection]
    exact merged_as_asked_raw_iff

end Merges

/-! ## A lamp without a config -/

/-- The key of the lamp. -/
def lampKey : DeviceKey :=
  ⟨.value .esp32, .value .led, .value .mqtt⟩

/-- The controls of the lamp. -/
def storedControls : DevicePayload :=
  .ofAssignments [⟨"on", .bool true⟩, ⟨"brightness", .number (.finite 40)⟩]

/-- The lamp reports that it is off, with a flag. -/
def offReport (flag : Value) : DevicePayload :=
  .ofAssignments [⟨"on", .bool false⟩, ⟨devicePayloadOverrideKey, flag⟩]

/-- The flag `true` replaces the stored controls. -/
theorem merged_as_asked_iff_true :
    ∃ result, @mergeValidate .unused [] lampKey .controls deviceControlsDto (offReport (.bool true))
        (fun _ => storedControls) .sanitize = .ok result ∧
      ∃ validated, @validateSection .unused [] lampKey .controls (offReport (.bool true))
          .sanitize = .ok validated ∧
        MergedAsAsked (offReport (.bool true)) storedControls
          (validated.payload.erase devicePayloadOverrideKey) result.merged :=
  ⟨_, rfl, (@merged_as_asked_iff .unused [] lampKey .controls deviceControlsDto
    (offReport (.bool true)) storedControls .sanitize _ rfl).mpr
      (.inr (.inl fun _ => .inl (by decide +kernel)))⟩

/-- The text `false` does not ask for a replacement, but the stored brightness is gone. -/
theorem false_text_replaces :
    ∃ result, @mergeValidate .unused [] lampKey .controls deviceControlsDto
        (offReport (.string "false")) (fun _ => storedControls) .sanitize = .ok result ∧
      ¬ SetsOverride (offReport (.string "false")) ∧
      ("brightness" ∈ storedControls ∧ "brightness" ∉ result.merged) ∧
      ¬ ∃ validated, @validateSection .unused [] lampKey .controls (offReport (.string "false"))
          .sanitize = .ok validated ∧
        MergedAsAsked (offReport (.string "false")) storedControls
          (validated.payload.erase devicePayloadOverrideKey) result.merged := by
  have hset : ¬ SetsOverride (offReport (.string "false")) := by
    unfold SetsOverride
    decide +kernel
  refine ⟨_, rfl, hset, by decide +kernel, fun h => ?_⟩
  obtain ⟨validated, -, hmerged⟩ := h
  have hbrightness := hmerged.kept hset "brightness"
  rw [Object.lookup_spread, AList.lookup_eq_none.mpr (by decide +kernel)] at hbrightness
  exact absurd (Option.or_eq_none_iff.mp hbrightness.symm).2 (by decide +kernel)

end MyHomeHub.ControlService
