import MyHomeHub.DeviceConfigs.DefaultPayloads
import MyHomeHub.Devices.ConfigInvariant

/-!
# The payloads of a device that adds itself

`addDevice` builds the document from the request and then merges the sanitized payload into
the payload of the document, which is the payload of the request. What sanitizing has
dropped comes back with that merge, unless the flag of the request replaces the payload.
`added_device_holds_declared_iff` says for which requests nothing undeclared is stored.
-/

namespace MyHomeHub.DevicesService

open JavaScript ConfigsValidator ControlService DeviceSchema

section Entries

variable [ExternalCalls]

/-- The flag of a payload replaces what sanitizing drops, as long as the config has the section. -/
def Replaces (config : DeviceConfig) (payloadSection : DeviceConfigSection)
    (payload : DevicePayload) : Prop :=
  (config.items payloadSection).isSome = true ∧ SetsOverride payload

/-- An entry of the request that the new document has. -/
def Enters (config : DeviceConfig) (payloadSection : DeviceConfigSection)
    (incoming : Option (Option DevicePayload)) (name : String) (value : Value) : Prop :=
  ∃ payload, incoming = some (some payload) ∧ payload.lookup name = some value ∧
    (Replaces config payloadSection payload →
      name ≠ devicePayloadOverrideKey ∧ Declares config payloadSection name value) ∧
    (config.items payloadSection = none → name ≠ devicePayloadOverrideKey)

/-- A section of the request leaves nothing undeclared in a new document. -/
structure AddsDeclared (config : DeviceConfig) (payloadSection : DeviceConfigSection)
    (incoming : Option (Option DevicePayload)) : Prop where
  /-- The flag replaces the payload, or every entry is declared. A flag that no section looks at is
  removed. -/
  entered : ∀ payload, incoming = some (some payload) →
    Replaces config payloadSection payload ∨
      ∀ name value, payload.lookup name = some value →
        Declares config payloadSection name value ∨
          (config.items payloadSection = none ∧ name = devicePayloadOverrideKey)
  /-- The default of the last item of a name that the request does not fill passes the first one. -/
  seeded : ∀ name last, lastItem ((config.items payloadSection).getD []) name = some last →
    (∀ value, ¬ Enters config payloadSection incoming name value) →
      Declares config payloadSection name (getItemDefaultValue last)

/-! ## One section -/

variable {configs : List DeviceConfig} {config : DeviceConfig} {device : Device}
  {payloadSection : DeviceConfigSection} {policy : DeviceConfigValidationPolicy}
  {incoming : Option (Option DevicePayload)} {dto : PayloadDto → PayloadDto}
  {result : Option MergedPayload}

/-- The new document has the entries that enter it, whether they were dropped or not. -/
theorem lookup_added (hconfig : getConfig configs device.configKey = some config)
    (hstrict : config.isStrict = true)
    (h : assignPayload configs device payloadSection dto incoming id policy = .ok result)
    (name : String) (value : Value) :
    ((result.map (·.merged)).getD ((incoming.bind id).getD ∅)).lookup name = some value ↔
      Enters config payloadSection incoming name value := by
  rcases assign_payload_ok h with
    ⟨rfl, rfl⟩ | ⟨payload, controlsDto, merged, rfl, -, hmerge, rfl⟩
  · simp [Enters]
  · obtain ⟨validated, hvalidated, hincoming, hmerged, -⟩ := merge_validate_ok hmerge
    rw [Option.map_some, Option.getD_some, hmerged, lookup_merge_payload, hincoming]
    simp only [Enters, Option.some.injEq, exists_eq_left', id_eq]
    cases hitems : config.items payloadSection with
    | none =>
        -- the payload is merged into itself, and the flag is gone from both
        have hinput := validate_section_of_no_config (by rw [hconfig, Option.bind_some, hitems])
          hvalidated
        rw [hinput, if_pos rfl]
        simp only [lookup_erase_override, Replaces, hitems]
        by_cases hname : name = devicePayloadOverrideKey
        · simp [hname]
        · cases payload.lookup name <;> simp [hname]
    | some items =>
        have hsome : (config.items payloadSection).isSome = true := by rw [hitems]; rfl
        obtain ⟨hinput, hpayload⟩ := validate_section_of_config hconfig hsome hvalidated
        have htruthy := truthy_validated_override hpayload
        have htaken := lookup_taken hstrict hpayload name
        have hsame : (if validated.isInput = true then payload.erase devicePayloadOverrideKey
            else payload) = payload := if_neg (by rw [hinput]; exact Bool.false_ne_true)
        rw [hsame]
        simp only [Replaces, hsome, true_and, reduceCtorEq, false_implies, and_true]
        by_cases hset : SetsOverride payload
        · rw [if_pos (htruthy.mpr hset), Option.or_none, htaken]
          simp [Taken, hset, and_comm, and_assoc]
        · rw [if_neg fun htrue => hset (htruthy.mp htrue)]
          simp only [hset, false_implies, and_true]
          -- a validated entry is the entry of the payload, and a dropped one comes back
          cases hlookup : (validated.payload.erase devicePayloadOverrideKey).lookup name with
          | none => rw [Option.none_or]
          | some other =>
              obtain ⟨-, -, raw, hraw, hother⟩ := (htaken other).mp hlookup
              cases hraw
              rw [Option.some_or, hother]

/-- Filled up with the defaults, the new document holds declared entries only exactly when the
request leaves nothing undeclared. -/
theorem holds_declared_added (hconfig : getConfig configs device.configKey = some config)
    (hstrict : config.isStrict = true)
    (h : assignPayload configs device payloadSection dto incoming id policy = .ok result)
    {final : DevicePayload}
    (hfinal : ∀ name, final.lookup name =
      (((result.map (·.merged)).getD ((incoming.bind id).getD ∅)).lookup name).or
        ((buildDefaultPayload (config.items payloadSection)).lookup name)) :
    HoldsDeclared config payloadSection final ↔ AddsDeclared config payloadSection incoming := by
  have hadded := lookup_added hconfig hstrict h
  have hdefault (name : String) : (buildDefaultPayload (config.items payloadSection)).lookup name =
      (lastItem ((config.items payloadSection).getD []) name).map getItemDefaultValue :=
    lookup_default_payload
  constructor
  · intro hholds
    have hdeclared (name : String) (value : Value)
        (henters : Enters config payloadSection incoming name value) :
        Declares config payloadSection name value := by
      apply hholds
      rw [hfinal, (hadded name value).mpr henters, Option.some_or]
    constructor
    · intro payload hpayload
      by_cases hreplaces : Replaces config payloadSection payload
      · exact .inl hreplaces
      · refine .inr fun name value hlookup => ?_
        by_cases hflag : config.items payloadSection = none ∧ name = devicePayloadOverrideKey
        · exact .inr hflag
        · exact .inl (hdeclared name value ⟨payload, hpayload, hlookup,
            fun h => absurd h hreplaces, fun hnone hname => hflag ⟨hnone, hname⟩⟩)
    · intro name last hlast hnone
      have hempty : ((result.map (·.merged)).getD ((incoming.bind id).getD ∅)).lookup name =
          none := by
        rw [Option.eq_none_iff_forall_ne_some]
        exact fun value hvalue => hnone value ((hadded name value).mp hvalue)
      apply hholds
      rw [hfinal, hempty, Option.none_or, hdefault, hlast, Option.map_some]
  · intro hadds name value hlookup
    rw [hfinal] at hlookup
    cases hentered : ((result.map (·.merged)).getD ((incoming.bind id).getD ∅)).lookup name with
    | none =>
        rw [hentered, Option.none_or, hdefault, Option.map_eq_some_iff] at hlookup
        obtain ⟨last, hlast, rfl⟩ := hlookup
        refine hadds.seeded name last hlast fun other hother => ?_
        rw [(hadded name other).mpr hother] at hentered
        cases hentered
    | some other =>
        rw [hentered, Option.some_or] at hlookup
        cases hlookup
        obtain ⟨payload, hpayload, hentry, hreplaced, hflag⟩ := (hadded name value).mp hentered
        rcases hadds.entered payload hpayload with hreplaces | hall
        · exact (hreplaced hreplaces).2
        · rcases hall name value hentry with hdeclares | ⟨hnone, hname⟩
          · exact hdeclares
          · exact absurd hname (hflag hnone)

/-! ## A new device -/

/-- A device that adds itself is stored with declared entries only exactly when, under a strict
config of its key, both sections of the request leave nothing undeclared. -/
theorem added_device_holds_declared_iff (hub : Hub) (externalId : String) (dto : CreateDeviceDto)
    (saved : Device)
    (haccepted : (addDevice hub externalId dto (some .device)).result = .ok saved) :
    (∀ stored, findByExternalId (addDevice hub externalId dto (some .device)).devices externalId =
        some stored → DeviceHoldsDeclared hub.configs stored) ↔
      ∀ config, getConfig hub.configs (newDevice externalId dto).configKey = some config →
        config.isStrict = true →
          AddsDeclared config .controls dto.controls ∧
            AddsDeclared config .measurements dto.measurements := by
  obtain ⟨device, hprepare, hsave⟩ := add_device_ok haccepted
  obtain ⟨assigned, hassigned, rfl⟩ := prepare_device_ok hprepare
  obtain ⟨controls, measurements, hcontrols, hmeasurements, rfl⟩ := assign_payloads_ok hassigned
  obtain ⟨hsaved, -, hmem⟩ := save_new_ok hsave
  have hstored : findByExternalId (addDevice hub externalId dto (some .device)).devices
      externalId = some saved :=
    find_by_external_id_iff.mpr ⟨(hmem saved).mpr (.inr rfl), by rw [hsaved]; rfl⟩
  have hfound : (∀ other, findByExternalId (addDevice hub externalId dto
      (some .device)).devices externalId = some other → DeviceHoldsDeclared hub.configs other) ↔
        DeviceHoldsDeclared hub.configs saved := by
    rw [hstored]
    simp
  rw [hfound, hsaved]
  obtain ⟨hlookupControls, hlookupMeasurements⟩ := lookup_apply_config_defaults hub.configs
    { newDevice externalId dto with
      controls := (controls.map (·.merged)).getD (newDevice externalId dto).controls
      measurements := (measurements.map (·.merged)).getD (newDevice externalId dto).measurements }
  refine forall_congr' fun config => forall_congr' fun hconfig => forall_congr' fun hstrict => ?_
  have hdefaults : buildDefaultPayloads hub.configs (newDevice externalId dto).configKey =
      ⟨buildDefaultPayload config.controls, buildDefaultPayload config.measurements⟩ := by
    have hkey : getConfig hub.configs (newDevice externalId dto).configKey = some config := hconfig
    rw [buildDefaultPayloads, hkey, Option.bind_some, Option.bind_some]
  refine and_congr (holds_declared_added hconfig hstrict hcontrols fun name => ?_)
    (holds_declared_added hconfig hstrict hmeasurements fun name => ?_)
  · refine (hlookupControls name).trans ?_
    congr 2
    exact congrArg DeviceConfigPayloads.controls hdefaults
  · refine (hlookupMeasurements name).trans ?_
    congr 2
    exact congrArg DeviceConfigPayloads.measurements hdefaults

end Entries

/-! ## A light that pairs itself -/

/-- A hub without devices, with a strict config for lights that have a brightness. -/
def pairingHub : Hub where
  devices := .empty
  configs := [{ lightConfig .esp32 "brightness" with transportProtocol := .mqtt }]

/-- The request for a light that pairs itself with the given controls. -/
def pairRequest (controls : DevicePayload) : CreateDeviceDto :=
  { name := some (.value "Desk light")
    type := some (.value .led)
    brand := some (.value .esp32)
    updateInterval := some (.value (.finite 30))
    ip := some (.value "192.168.0.7")
    transportProtocol := some (.value .mqtt)
    controls := some (some controls)
    measurements := some (some ∅) }

/-- A brightness that the config declares, possibly next to a color that it does not know. -/
def pairedControls (withColor : Bool) : DevicePayload :=
  .ofAssignments (⟨"brightness", .number (.finite 50)⟩ ::
    if withColor then [⟨"color", .string "red"⟩] else [])

theorem pair_request_accepted (withColor : Bool) :
    ∃ saved, (@addDevice .unused pairingHub "light" (pairRequest (pairedControls withColor))
      (some .device)).result = .ok saved := by
  cases withColor with
  | false => exact ⟨_, rfl⟩
  | true => exact ⟨_, rfl⟩

/-- The only default is the one of the brightness, which the request fills. -/
theorem brightness_adds_declared [ExternalCalls] {config : DeviceConfig}
    (hcontrols : config.controls = some [numberControl "brightness"])
    (hmeasurements : config.measurements = some []) :
    AddsDeclared config .controls (some (some (pairedControls false))) ∧
      AddsDeclared config .measurements (some (some ∅)) := by
  have hitem (name : String) (last : DeviceConfigItem)
      (h : lastItem [numberControl "brightness"] name = some last) :
      name = "brightness" ∧ last = numberControl "brightness" := by
    obtain ⟨hmem, hname⟩ := last_item_some h
    cases List.mem_singleton.mp hmem
    exact ⟨hname.symm, rfl⟩
  have hdeclares (value : Value) (hvalid : validateItemValue (numberControl "brightness") value =
      .ok none) : Declares config .controls "brightness" value := by
    refine ⟨numberControl "brightness", ?_, hvalid⟩
    rw [DeviceConfig.items, hcontrols]
    rfl
  refine ⟨⟨fun payload hpayload => .inr fun name value hlookup => .inl ?_, ?_⟩,
    ⟨fun payload hpayload => .inr fun name value hlookup => ?_, ?_⟩⟩
  · cases hpayload
    have hmem := Object.mem_of_lookup_of_assignments hlookup
    cases List.mem_singleton.mp hmem
    exact hdeclares _ rfl
  · intro name last hlast _
    rw [DeviceConfig.items, hcontrols] at hlast
    obtain ⟨rfl, rfl⟩ := hitem name last hlast
    exact hdeclares _ rfl
  · cases hpayload
    rw [AList.lookup_empty] at hlookup
    cases hlookup
  · intro name last hlast
    rw [DeviceConfig.items, hmeasurements] at hlast
    cases hlast

/-- A light that pairs itself with its brightness is stored with it. -/
theorem added_device_holds_declared_iff_declared :
    (∃ saved, (@addDevice .unused pairingHub "light" (pairRequest (pairedControls false))
      (some .device)).result = .ok saved) ∧
    ∀ stored, findByExternalId (@addDevice .unused pairingHub "light"
        (pairRequest (pairedControls false)) (some .device)).devices "light" = some stored →
      @DeviceHoldsDeclared .unused pairingHub.configs stored := by
  obtain ⟨saved, haccepted⟩ := pair_request_accepted false
  refine ⟨⟨saved, haccepted⟩, ?_⟩
  refine (@added_device_holds_declared_iff .unused pairingHub "light"
    (pairRequest (pairedControls false)) saved haccepted).mpr fun config hconfig _ => ?_
  cases hconfig
  exact @brightness_adds_declared .unused _ rfl rfl

/-- The color is dropped as unknown, and the merge into the payload of the request stores it. -/
theorem dropped_control_stored :
    (∃ saved, (@addDevice .unused pairingHub "light" (pairRequest (pairedControls true))
      (some .device)).result = .ok saved) ∧
    (∀ sanitized, @validatePayload .unused (pairedControls true)
        (buildOptions { lightConfig .esp32 "brightness" with transportProtocol := .mqtt }
          .controls .sanitize) = .ok sanitized → sanitized.lookup "color" = none) ∧
    ∃ stored, findByExternalId (@addDevice .unused pairingHub "light"
        (pairRequest (pairedControls true)) (some .device)).devices "light" = some stored ∧
      stored.controls.lookup "color" = some (.string "red") ∧
      ¬ @DeviceHoldsDeclared .unused pairingHub.configs stored := by
  refine ⟨pair_request_accepted true, fun sanitized hsanitized => ?_, _, rfl, rfl, fun hholds => ?_⟩
  · cases hsanitized
    rfl
  · obtain ⟨item, hitem, -⟩ :=
      (hholds _ rfl rfl).1 "color" (.string "red") rfl
    cases hitem

end MyHomeHub.DevicesService
