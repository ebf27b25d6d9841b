import MyHomeHub.Devices.Service

/-!
# What an update keeps of the config rules

A strict device config says which entries the payloads of its devices may hold. An
update validates the payload of the request, merges it into the stored one, and fills in
the defaults when the config key of the device changes. The entries of the stored
document are therefore of three kinds: taken from the request, retained from before, and
seeded. Only the first kind is validated.
-/

namespace MyHomeHub.DevicesService

open JavaScript ConfigsValidator ControlService DeviceSchema

section Rules

variable [ExternalCalls]

/-- An entry is declared by a section of a config, and its value passes the rules of the item. -/
def Declares (config : DeviceConfig) (payloadSection : DeviceConfigSection) (name : String)
    (value : Value) : Prop :=
  ∃ item, findItem ((config.items payloadSection).getD []) name = some item ∧
    validateItemValue item value = .ok none

/-- Every entry of a payload is declared. -/
def HoldsDeclared (config : DeviceConfig) (payloadSection : DeviceConfigSection)
    (payload : DevicePayload) : Prop :=
  ∀ name value, payload.lookup name = some value → Declares config payloadSection name value

/-- Both payloads of a device hold declared entries only, if its config is strict. -/
def DeviceHoldsDeclared (configs : List DeviceConfig) (device : Device) : Prop :=
  ∀ config, getConfig configs device.configKey = some config → config.isStrict = true →
    HoldsDeclared config .controls device.controls ∧
      HoldsDeclared config .measurements device.measurements

end Rules

/-- A config as `upsertConfig` stores it: the parser makes a list of every section. -/
def HasAllSections (config : DeviceConfig) : Prop :=
  ∀ payloadSection, (config.items payloadSection).isSome = true

/-- The payload of a request has the flag that replaces the stored payload. -/
def Overrides (incoming : Option (Option DevicePayload)) : Prop :=
  ∃ payload, incoming = some (some payload) ∧ SetsOverride payload

section Entries

variable [ExternalCalls]

/-- An entry of a request that the config accepts. -/
def Taken (config : DeviceConfig) (payloadSection : DeviceConfigSection)
    (incoming : Option (Option DevicePayload)) (name : String) (value : Value) : Prop :=
  name ≠ devicePayloadOverrideKey ∧ Declares config payloadSection name value ∧
    ∃ payload, incoming = some (some payload) ∧ payload.lookup name = some value

/-- A stored entry that the request neither replaces nor overrides. -/
def Retained (config : DeviceConfig) (payloadSection : DeviceConfigSection)
    (old : DevicePayload) (incoming : Option (Option DevicePayload)) (name : String)
    (value : Value) : Prop :=
  (∀ other, ¬ Taken config payloadSection incoming name other) ∧ ¬ Overrides incoming ∧
    old.lookup name = some value

/-- A default for an entry that is neither in the request nor retained. -/
def Seeded (config : DeviceConfig) (payloadSection : DeviceConfigSection)
    (old : DevicePayload) (incoming : Option (Option DevicePayload)) (name : String)
    (value : Value) : Prop :=
  (∀ other, ¬ Taken config payloadSection incoming name other) ∧
    (Overrides incoming ∨ old.lookup name = none) ∧
      (buildDefaultPayload (config.items payloadSection)).lookup name = some value

/-- Whatever of the stored payload stays under a new config, and whatever default is filled in, is
declared by that config. -/
def StaysDeclared (config : DeviceConfig) (payloadSection : DeviceConfigSection)
    (old : DevicePayload) (incoming : Option (Option DevicePayload)) : Prop :=
  ∀ name value, Retained config payloadSection old incoming name value ∨
    Seeded config payloadSection old incoming name value →
      Declares config payloadSection name value

/-! ## One section -/

section Sections

variable {configs : List DeviceConfig} {config : DeviceConfig} {device : Device}
  {payloadSection : DeviceConfigSection} {policy : DeviceConfigValidationPolicy}
  {old : DevicePayload} {incoming : Option (Option DevicePayload)}
  {dto : PayloadDto → PayloadDto} {result : Option MergedPayload}

/-- A strict config allows the declared fields only. -/
theorem validate_field_strict (hstrict : config.isStrict = true) {name : String} {value : Value} :
    validateField (buildOptions config payloadSection policy) name value = .ok none ↔
      Declares config payloadSection name value := by
  have hitems : getItems (buildOptions config payloadSection policy) =
      (config.items payloadSection).getD [] := rfl
  rw [validate_field_ok_iff, hitems, Declares]
  cases findItem ((config.items payloadSection).getD []) name with
  | none => simp [buildOptions, hstrict]
  | some item => simp

/-- Without its flag, a validated payload holds what is taken from the payload. -/
theorem lookup_taken (hstrict : config.isStrict = true) {payload validated : DevicePayload}
    (h : validatePayload payload (buildOptions config payloadSection policy) = .ok validated)
    (name : String) (value : Value) :
    (validated.erase devicePayloadOverrideKey).lookup name = some value ↔
      Taken config payloadSection (some (some payload)) name value := by
  rw [lookup_erase_override]
  by_cases hname : name = devicePayloadOverrideKey
  · simp [Taken, hname]
  · rw [if_neg hname, lookup_validated h hname, validate_field_strict hstrict]
    simp [Taken, hname, and_comm]

/-- The payload after the assignment holds what was taken from the request and what was retained. -/
theorem lookup_assigned (hconfig : getConfig configs device.configKey = some config)
    (hstrict : config.isStrict = true) (hsections : HasAllSections config)
    (h : assignPayload configs device payloadSection dto incoming (fun _ => old) policy =
      .ok result) (name : String) (value : Value) :
    ((result.map (·.merged)).getD old).lookup name = some value ↔
      Taken config payloadSection incoming name value ∨
        Retained config payloadSection old incoming name value := by
  rcases assign_payload_ok h with
    ⟨rfl, rfl⟩ | ⟨payload, controlsDto, merged, rfl, -, hmerge, rfl⟩
  · simp [Taken, Retained, Overrides]
  · obtain ⟨validated, hvalidated, -, hmerged, -⟩ := merge_validate_ok hmerge
    obtain ⟨-, hpayload⟩ :=
      validate_section_of_config hconfig (hsections payloadSection) hvalidated
    have htaken := lookup_taken hstrict hpayload name
    have hoverride : (validated.payload.get devicePayloadOverrideKey).truthy = true ↔
        Overrides (some (some payload)) := by
      rw [truthy_validated_override hpayload]
      simp [Overrides]
    rw [Option.map_some, Option.getD_some, hmerged, lookup_merge_payload]
    cases hlookup : (validated.payload.erase devicePayloadOverrideKey).lookup name with
    | some other =>
        have hother := (htaken other).mp hlookup
        rw [Option.some_or, ← hlookup, htaken value]
        exact ⟨.inl, fun h => h.resolve_right fun hretained => hretained.1 other hother⟩
    | none =>
        have hnone : ∀ other, ¬ Taken config payloadSection (some (some payload)) name other := by
          intro other hother
          rw [(htaken other).mpr hother] at hlookup
          cases hlookup
        rw [Option.none_or]
        by_cases hflag : Overrides (some (some payload))
        · rw [if_pos (hoverride.mpr hflag)]
          simp [Retained, hflag, hnone value]
        · rw [if_neg (fun htruthy => hflag (hoverride.mp htruthy))]
          simp [Retained, hflag, hnone]

/-- The payload after the assignment has no entry of a name exactly when the request has none and
none is retained. -/
theorem lookup_assigned_none (hconfig : getConfig configs device.configKey = some config)
    (hstrict : config.isStrict = true) (hsections : HasAllSections config)
    (h : assignPayload configs device payloadSection dto incoming (fun _ => old) policy =
      .ok result) (name : String) :
    ((result.map (·.merged)).getD old).lookup name = none ↔
      (∀ other, ¬ Taken config payloadSection incoming name other) ∧
        (Overrides incoming ∨ old.lookup name = none) := by
  have hlookup := lookup_assigned hconfig hstrict hsections h name
  rw [Option.eq_none_iff_forall_ne_some]
  constructor
  · intro hnone
    have htaken : ∀ other, ¬ Taken config payloadSection incoming name other :=
      fun other hother => hnone other ((hlookup other).mpr (.inl hother))
    refine ⟨htaken, ?_⟩
    by_contra hneither
    rw [not_or] at hneither
    obtain ⟨value, hvalue⟩ := Option.ne_none_iff_exists'.mp hneither.2
    exact hnone value ((hlookup value).mpr (.inr ⟨htaken, hneither.1, hvalue⟩))
  · intro h value hvalue
    obtain ⟨htaken, hold⟩ := h
    rcases (hlookup value).mp hvalue with h | ⟨-, hoverride, hretained⟩
    · exact htaken value h
    · rcases hold with hflag | hold
      · exact hoverride hflag
      · rw [hretained] at hold
        cases hold

/-- Under an unchanged config nothing but declared entries is taken or retained. -/
theorem holds_declared_assigned (hconfig : getConfig configs device.configKey = some config)
    (hstrict : config.isStrict = true) (hsections : HasAllSections config)
    (h : assignPayload configs device payloadSection dto incoming (fun _ => old) policy =
      .ok result) (hold : HoldsDeclared config payloadSection old) :
    HoldsDeclared config payloadSection ((result.map (·.merged)).getD old) := by
  intro name value hlookup
  rcases (lookup_assigned hconfig hstrict hsections h _ _).mp hlookup with htaken | hretained
  · exact htaken.2.1
  · exact hold name value hretained.2.2

/-- Under a new config the seeded payload holds declared entries only exactly when the retained and
the seeded ones are declared. -/
theorem holds_declared_seeded (hconfig : getConfig configs device.configKey = some config)
    (hstrict : config.isStrict = true) (hsections : HasAllSections config)
    (h : assignPayload configs device payloadSection dto incoming (fun _ => old) policy =
      .ok result) {final : DevicePayload}
    (hfinal : ∀ name, final.lookup name = (((result.map (·.merged)).getD old).lookup name).or
      ((buildDefaultPayload (config.items payloadSection)).lookup name)) :
    HoldsDeclared config payloadSection final ↔
      StaysDeclared config payloadSection old incoming := by
  have hnone := lookup_assigned_none hconfig hstrict hsections h
  constructor
  · intro hholds name value hentry
    apply hholds
    rw [hfinal]
    rcases hentry with hretained | hseeded
    · rw [(lookup_assigned hconfig hstrict hsections h _ _).mpr (.inr hretained), Option.some_or]
    · rw [(hnone name).mpr ⟨hseeded.1, hseeded.2.1⟩, Option.none_or]
      exact hseeded.2.2
  · intro hstays name value hlookup
    rw [hfinal] at hlookup
    cases hassigned : ((result.map (·.merged)).getD old).lookup name with
    | some other =>
        rw [hassigned, Option.some_or] at hlookup
        cases hlookup
        rcases (lookup_assigned hconfig hstrict hsections h _ _).mp hassigned with
          htaken | hretained
        · exact htaken.2.1
        · exact hstays name value (.inl hretained)
    | none =>
        rw [hassigned, Option.none_or] at hlookup
        obtain ⟨htaken, hold⟩ := (hnone name).mp hassigned
        exact hstays name value (.inr ⟨htaken, hold, hlookup⟩)

theorem HoldsDeclared.of_same_lookups {payload other : DevicePayload}
    (hsame : ∀ name, payload.lookup name = other.lookup name)
    (h : HoldsDeclared config payloadSection other) :
    HoldsDeclared config payloadSection payload :=
  fun name value hlookup => h name value ((hsame name).symm.trans hlookup)

end Sections

/-! ## An update -/

/-- After an accepted update of a device that held declared entries only, it still does exactly when
its config key is the old one or everything that stays under the new config is declared. -/
theorem update_holds_declared_iff {hub : Hub} {externalId : String} {dto : UpdateDeviceDto}
    {options : UpdateDeviceOptions} {device saved : Device}
    (hsections : ∀ config ∈ hub.configs, HasAllSections config)
    (hdevice : findByExternalId hub.devices externalId = some device)
    (hbefore : DeviceHoldsDeclared hub.configs device)
    (haccepted : (updateDevice hub externalId dto options).result = .ok saved) :
    (∀ stored, findByExternalId (updateDevice hub externalId dto options).devices externalId =
        some stored → DeviceHoldsDeclared hub.configs stored) ↔
      ((assignFields device dto.toDeviceFieldsDto).configKey = device.configKey ∨
        ∀ config, getConfig hub.configs (assignFields device dto.toDeviceFieldsDto).configKey =
            some config → config.isStrict = true →
          StaysDeclared config .controls device.controls dto.controls ∧
            StaysDeclared config .measurements device.measurements dto.measurements) := by
  obtain ⟨stored, controls, measurements, hstored, hkey, hcontrols, hmeasurements, hlookup⟩ :=
    stored_of_update hdevice haccepted
  have hfound : (∀ other, findByExternalId (updateDevice hub externalId dto options).devices
      externalId = some other → DeviceHoldsDeclared hub.configs other) ↔
        DeviceHoldsDeclared hub.configs stored := by
    rw [hstored]
    simp
  rw [hfound]
  unfold DeviceHoldsDeclared at hbefore ⊢
  rw [hkey] at hlookup ⊢
  -- with an unchanged key the rules are the old ones; otherwise the defaults are filled in
  by_cases hsame : (assignFields device dto.toDeviceFieldsDto).configKey = device.configKey
  · refine iff_of_true (fun config hconfig hstrict => ?_) (.inl hsame)
    have hall := hsections config (List.mem_of_find?_eq_some hconfig)
    have hunchanged : ¬ isDeviceConfigKeyChanged device dto.toDeviceFieldsDto = true := by
      rw [is_device_config_key_changed_iff hconfig]
      exact fun h => h hsame
    obtain ⟨hbeforeControls, hbeforeMeasurements⟩ :=
      hbefore config (hsame ▸ hconfig) hstrict
    simp only [if_neg hunchanged, Option.or_none] at hlookup
    exact ⟨(holds_declared_assigned hconfig hstrict hall hcontrols
        hbeforeControls).of_same_lookups fun name => (hlookup name).1,
      (holds_declared_assigned hconfig hstrict hall hmeasurements
        hbeforeMeasurements).of_same_lookups fun name => (hlookup name).2⟩
  · rw [or_iff_right hsame]
    refine forall_congr' fun config => forall_congr' fun hconfig =>
      forall_congr' fun hstrict => ?_
    have hall := hsections config (List.mem_of_find?_eq_some hconfig)
    have hchanged := (is_device_config_key_changed_iff hconfig).mpr hsame
    simp only [if_pos hchanged, buildDefaultPayloads, hconfig, Option.bind_some] at hlookup
    rw [holds_declared_seeded hconfig hstrict hall hcontrols fun name => (hlookup name).1,
      holds_declared_seeded hconfig hstrict hall hmeasurements fun name => (hlookup name).2]

end Entries

/-! ## A light that is given another brand -/

/-- A number control without constraints. -/
def numberControl (name : String) : DeviceConfigItem where
  label := .string name
  name := .string name
  type := .number

/-- The strict config of the lights of a brand, with one control. -/
def lightConfig (brand : DeviceBrand) (control : String) : DeviceConfig where
  brand := brand
  type := .led
  transportProtocol := .http
  strict := some true
  commands := some []
  controls := some [numberControl control]
  measurements := some []

/-- A light at half its brightness. -/
def dimmedLight : Device where
  externalId := "light"
  name := .value "Light"
  type := .value .led
  brand := .value .philips
  transportProtocol := .value .http
  controls := .ofAssignments [⟨"brightness", .number (.finite 50)⟩]

/-- A hub with the light. The light of another brand has a control of the given name. -/
def lightHub (control : String) : Hub where
  devices := ⟨[dimmedLight], List.pairwise_singleton _ _⟩
  configs := [lightConfig .philips "brightness", lightConfig .shelly control]

/-- A request that only changes the brand. -/
def changeBrand : UpdateDeviceDto :=
  { brand := some (.value .shelly) }

theorem light_hub_sections (control : String) :
    ∀ config ∈ (lightHub control).configs, HasAllSections config := by
  intro config hconfig payloadSection
  rcases List.mem_pair.mp hconfig with rfl | rfl <;> cases payloadSection <;> rfl

theorem dimmed_light_entry {name : String} {value : Value}
    (h : dimmedLight.controls.lookup name = some value) :
    name = "brightness" ∧ value = .number (.finite 50) := by
  have hmem := Object.mem_of_lookup_of_assignments h
  rw [List.mem_singleton] at hmem
  cases hmem
  exact ⟨rfl, rfl⟩

theorem declares_brightness [ExternalCalls] (brand : DeviceBrand) :
    Declares (lightConfig brand "brightness") .controls "brightness" (.number (.finite 50)) :=
  ⟨numberControl "brightness", rfl, rfl⟩

theorem dimmed_light_holds_declared [ExternalCalls] (control : String) :
    DeviceHoldsDeclared (lightHub control).configs dimmedLight := by
  intro config hconfig hstrict
  have hphilips : getConfig (lightHub control).configs dimmedLight.configKey =
      some (lightConfig .philips "brightness") := rfl
  rw [hphilips, Option.some.injEq] at hconfig
  subst hconfig
  refine ⟨fun name value hlookup => ?_, fun name value hlookup => ?_⟩
  · obtain ⟨rfl, rfl⟩ := dimmed_light_entry hlookup
    exact declares_brightness .philips
  · rw [show dimmedLight.measurements = ∅ from rfl, AList.lookup_empty] at hlookup
    cases hlookup

theorem change_brand_accepted (control : String) :
    ∃ saved, (@updateDevice .unused (lightHub control) "light" changeBrand {}).result =
      .ok saved :=
  ⟨_, rfl⟩

theorem brightness_stays_declared [ExternalCalls] :
    StaysDeclared (lightConfig .shelly "brightness") .controls dimmedLight.controls none ∧
      StaysDeclared (lightConfig .shelly "brightness") .measurements dimmedLight.measurements
        none := by
  have hdefaults : ∀ name value,
      (buildDefaultPayload (some [numberControl "brightness"])).lookup name = some value →
        name = "brightness" := by
    intro name value hlookup
    have hmem := Object.mem_of_lookup_of_assignments hlookup
    rw [Option.getD_some, List.map_singleton, List.mem_singleton] at hmem
    cases hmem
    rfl
  refine ⟨fun name value hentry => ?_, fun name value hentry => ?_⟩
  · rcases hentry with ⟨-, -, hlookup⟩ | ⟨-, hold, hlookup⟩
    · obtain ⟨rfl, rfl⟩ := dimmed_light_entry hlookup
      exact declares_brightness .shelly
    · cases hdefaults name value hlookup
      rcases hold with ⟨payload, hpayload, -⟩ | hold
      · cases hpayload
      · cases hold
  · rcases hentry with ⟨-, -, hlookup⟩ | ⟨-, -, hlookup⟩ <;> cases hlookup

/-- Another brand that declares the same control may keep its value. -/
theorem update_holds_declared_iff_same_control :
    (∃ saved, (@updateDevice .unused (lightHub "brightness") "light" changeBrand {}).result =
      .ok saved) ∧
    ∀ stored, findByExternalId
        (@updateDevice .unused (lightHub "brightness") "light" changeBrand {}).devices "light" =
          some stored →
      @DeviceHoldsDeclared .unused (lightHub "brightness").configs stored := by
  obtain ⟨saved, haccepted⟩ := change_brand_accepted "brightness"
  refine ⟨⟨saved, haccepted⟩, ?_⟩
  refine (@update_holds_declared_iff .unused (lightHub "brightness") "light" changeBrand {}
    dimmedLight saved (light_hub_sections _) rfl (@dimmed_light_holds_declared .unused _)
    haccepted).mpr (.inr fun config hconfig _ => ?_)
  cases hconfig
  exact @brightness_stays_declared .unused

/-- A light of a brand without the control keeps a brightness that its config does not declare. -/
theorem brand_change_keeps_undeclared :
    (∀ config ∈ (lightHub "power").configs, HasAllSections config) ∧
    findByExternalId (lightHub "power").devices "light" = some dimmedLight ∧
    @DeviceHoldsDeclared .unused (lightHub "power").configs dimmedLight ∧
    (∃ saved, (@updateDevice .unused (lightHub "power") "light" changeBrand {}).result =
      .ok saved) ∧
    ¬ ∀ stored, findByExternalId
        (@updateDevice .unused (lightHub "power") "light" changeBrand {}).devices "light" =
          some stored →
      @DeviceHoldsDeclared .unused (lightHub "power").configs stored := by
  refine ⟨light_hub_sections _, rfl, @dimmed_light_holds_declared .unused _,
    change_brand_accepted _, fun hall => ?_⟩
  have hholds := hall _ rfl (lightConfig .shelly "power") rfl rfl
  obtain ⟨item, hitem, -⟩ := hholds.1 "brightness" (.number (.finite 50)) rfl
  cases hitem

end MyHomeHub.DevicesService
