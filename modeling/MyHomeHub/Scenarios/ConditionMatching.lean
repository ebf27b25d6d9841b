import MyHomeHub.DeviceConfigs.Mapper
import MyHomeHub.Scenarios.Execution

/-!
# Which conditions can be met

The validator checks the conditions of a trigger source by the rules for values that are
written to a device: an enum item takes any value whose text is a declared name, an object
item takes any object, and what no strict config declares is taken as it is. The evaluator
compares with `===`, to which two objects are never equal, and a device stores the declared
name of an enum value as a string.

`condition_can_be_met_iff` says which conditions a device meets that holds their values.
-/

namespace MyHomeHub.ScenariosExecution

open JavaScript Mapper

/-! ## What a device holds -/

/-- What a device path stores for a value of an item: for an enum item the declared name. -/
def storedItemValue (item : DeviceConfigItem) (value : Value) : Value :=
  if item.type = .enum then
    match (item.values.getD []).find? (matchesName value) with
    | some itemValue => .string itemValue.name
    | none => value
  else value

/-- What a device path stores for a value under a name. -/
def storedValue (items : List DeviceConfigItem) (name : String) (value : Value) : Value :=
  match findItem items name with
  | some item => storedItemValue item value
  | none => value

/-- The declared items of a section. -/
def sectionItems (configs : List DeviceConfig) (key : DeviceKey)
    (payloadSection : DeviceConfigSection) : List DeviceConfigItem :=
  ((getConfig configs key).bind (·.items payloadSection)).getD []

/-- The payload that the conditions of a section are compared with. -/
def sectionPayload (device : Device) (commands : Option DevicePayload) :
    DeviceConfigSection → Option DevicePayload
  | .commands => commands
  | .controls => some device.controls
  | .measurements => some device.measurements

/-- A trigger source with conditions on one section. -/
def onSection (payloadSection : DeviceConfigSection) (conditions : DevicePayload) :
    ScenarioTriggerSource where
  type := .device
  device :=
    match payloadSection with
    | .commands => { commands := some conditions }
    | .controls => { controls := some conditions }
    | .measurements => { measurements := some conditions }

/-- The payload holds the values of the conditions, as a device path stores them. -/
def HoldsConditions (items : List DeviceConfigItem) (conditions payload : DevicePayload) : Prop :=
  ∀ name value, conditions.lookup name = some value →
    payload.lookup name = some (storedValue items name value)

/-- Every device or command that holds the values of the conditions meets them. -/
def CanBeMet (configs : List DeviceConfig) (key : DeviceKey)
    (payloadSection : DeviceConfigSection) (conditions : DevicePayload) : Prop :=
  ∀ device commands payload, sectionPayload device commands payloadSection = some payload →
    HoldsConditions (sectionItems configs key payloadSection) conditions payload →
      deviceConditionIsMet (onSection payloadSection conditions) device commands = true

/-! ## Which values can be compared -/

/-- A value that is equal to itself in another document. -/
def IsPrimitive : Value → Prop
  | .array _ | .object _ => False
  | .number n => n ≠ .nan
  | _ => True

/-- The value is a primitive one, and it is a string if it stands for a declared enum value. -/
structure IsComparable (items : List DeviceConfigItem) (name : String) (value : Value) : Prop where
  primitive : IsPrimitive value
  enum : ∀ item, findItem items name = some item → item.type = .enum →
    (∃ itemValue ∈ item.values.getD [], itemValue.name = value.toString) →
      ∃ s, value = .string s

section

variable {items : List DeviceConfigItem} {item : DeviceConfigItem} {name : String} {value : Value}
  {conditions payload : DevicePayload} {payloadSection : DeviceConfigSection}

/-- A declared value that is found by a text has it as its name. -/
theorem name_of_find {itemValues : List DeviceConfigItemValue} {found : DeviceConfigItemValue}
    (h : itemValues.find? (matchesName value) = some found) : found.name = value.toString := by
  have hmatches : matchesName value found = true := List.find?_some h
  exact of_decide_eq_true hmatches

theorem strict_eq_self_iff : value.strictEq value = true ↔ IsPrimitive value := by
  cases value with
  | number n => cases n <;> simp [Value.strictEq, Number.strictEq, IsPrimitive]
  | undefined | null | bool | string | array | object => simp [Value.strictEq, IsPrimitive]

/-- Only a string is equal to a stored name. -/
theorem string_strict_eq_iff {s : String} :
    (Value.string s).strictEq value = true ↔ value = .string s := by
  cases value <;> simp [Value.strictEq, eq_comm]

/-- The stored value equals the value of the condition exactly when the two can be compared. -/
theorem stored_strict_eq_iff :
    (storedValue items name value).strictEq value = true ↔ IsComparable items name value := by
  -- outside the declared enum values the device stores the very value of the condition
  have hplain (hother : ∀ item, findItem items name = some item → item.type = .enum →
      ¬ ∃ itemValue ∈ item.values.getD [], itemValue.name = value.toString) :
      value.strictEq value = true ↔ IsComparable items name value := by
    rw [strict_eq_self_iff]
    exact ⟨fun h => ⟨h, fun item hitem htype hdeclared =>
      absurd hdeclared (hother item hitem htype)⟩, fun h => h.primitive⟩
  unfold storedValue
  cases hitem : findItem items name with
  | none =>
      refine hplain fun item hsome => ?_
      rw [hitem] at hsome
      cases hsome
  | some item =>
      show (storedItemValue item value).strictEq value = true ↔ _
      unfold storedItemValue
      split
      · rename_i htype
        split
        · rename_i found hfind
          rw [string_strict_eq_iff]
          have hname := name_of_find hfind
          constructor
          · rintro rfl
            exact ⟨trivial, fun _ _ _ _ => ⟨_, rfl⟩⟩
          · intro h
            obtain ⟨s, rfl⟩ :=
              h.enum item hitem htype ⟨found, List.mem_of_find?_eq_some hfind, hname⟩
            exact congrArg Value.string hname.symm
        · rename_i hfind
          refine hplain fun other hother _ => ?_
          rw [hitem, Option.some.injEq] at hother
          subst hother
          intro h
          obtain ⟨itemValue, hmem, hname⟩ := h
          exact List.find?_eq_none.mp hfind itemValue hmem (decide_eq_true hname)
      · rename_i htype
        refine hplain fun other hother htype' => ?_
        rw [hitem, Option.some.injEq] at hother
        subst hother
        exact absurd htype' htype

/-! ## Meeting conditions -/

/-- Conditions are met when every value equals the one in the payload. -/
theorem meets_conditions_iff :
    meetsConditions (some conditions) (some payload) = true ↔
      ∀ name value, conditions.lookup name = some value →
        ((payload.lookup name).getD .undefined).strictEq value = true := by
  rw [meetsConditions, List.all_eq_true]
  exact Object.forall_entries (p := fun name value =>
    ((payload.lookup name).getD .undefined).strictEq value = true)

/-- A trigger source with conditions on one section looks at the payload of that section only. -/
theorem on_section_met_iff {device : Device} {commands : Option DevicePayload}
    (h : sectionPayload device commands payloadSection = some payload) :
    deviceConditionIsMet (onSection payloadSection conditions) device commands = true ↔
      meetsConditions (some conditions) (some payload) = true := by
  unfold deviceConditionIsMet onSection
  cases payloadSection with
  | commands =>
      cases h
      rfl
  | controls =>
      cases Option.some.inj h
      simp [meetsConditions]
  | measurements =>
      cases Option.some.inj h
      simp [meetsConditions]

/-- There is a payload that holds the values of the conditions. -/
theorem exists_holds (items : List DeviceConfigItem) (conditions : DevicePayload) :
    ∃ payload, HoldsConditions items conditions payload := by
  refine ⟨.ofAssignments (conditions.entries.map fun condition =>
    ⟨condition.1, storedValue items condition.1 condition.2⟩), fun name value hvalue => ?_⟩
  rw [Object.lookup_of_assignments]
  · exact List.mem_map.mpr ⟨⟨name, value⟩, AList.mem_lookup_iff.mp hvalue, rfl⟩
  · -- the conditions have different names, so no assignment replaces another one
    intro a b ha hb
    obtain ⟨⟨nameA, valueA⟩, hmemA, hsameA⟩ := List.mem_map.mp ha
    obtain ⟨⟨nameB, valueB⟩, hmemB, hsameB⟩ := List.mem_map.mp hb
    cases hsameA
    cases hsameB
    have hvalues := (AList.mem_lookup_iff.mpr hmemA).symm.trans (AList.mem_lookup_iff.mpr hmemB)
    rw [Option.some.inj hvalues]

/-- There is a device with a payload, or a command. -/
theorem exists_section_payload (payloadSection : DeviceConfigSection) (payload : DevicePayload) :
    ∃ device commands, sectionPayload device commands payloadSection = some payload := by
  let device : Device :=
    { externalId := "", name := .undefined, type := .undefined, transportProtocol := .undefined
      controls := payload, measurements := payload }
  refine ⟨device, some payload, ?_⟩
  cases payloadSection <;> rfl

/-- The devices and commands that hold the values of the conditions meet them exactly when every
value can be compared. -/
theorem condition_can_be_met_iff {configs : List DeviceConfig} {key : DeviceKey} :
    CanBeMet configs key payloadSection conditions ↔
      ∀ name value, conditions.lookup name = some value →
        IsComparable (sectionItems configs key payloadSection) name value := by
  have hmet {payload : DevicePayload}
      (hholds : HoldsConditions (sectionItems configs key payloadSection) conditions payload) :
      meetsConditions (some conditions) (some payload) = true ↔
        ∀ name value, conditions.lookup name = some value →
          IsComparable (sectionItems configs key payloadSection) name value := by
    rw [meets_conditions_iff]
    refine forall₂_congr fun name value => forall_congr' fun hvalue => ?_
    rw [hholds name value hvalue, Option.getD_some, stored_strict_eq_iff]
  constructor
  · intro hall
    obtain ⟨payload, hholds⟩ := exists_holds (sectionItems configs key payloadSection) conditions
    obtain ⟨device, commands, hpayload⟩ := exists_section_payload payloadSection payload
    exact (hmet hholds).mp
      ((on_section_met_iff hpayload).mp (hall device commands payload hpayload hholds))
  · intro hcomparable device commands payload hpayload hholds
    exact (on_section_met_iff hpayload).mpr ((hmet hholds).mpr hcomparable)

end

/-- A config of plugs with a schedule. -/
def scheduleConfig : DeviceConfig where
  brand := .shelly
  type := .plug
  transportProtocol := .http
  controls := some [{ label := .string "Schedule", name := .string "schedule", type := .object }]

/-- The schedule starts at eight. -/
def startsAtEight : DevicePayload :=
  .ofAssignments [⟨"schedule", .object [("from", .number (.finite 8))]⟩]

/-- A plug whose schedule starts at eight. -/
def scheduledPlug : Device where
  externalId := "5f0b8c2d-1e7a-4936-a2c4-8d3e6f9b1a70"
  name := .value "Plug"
  type := .value .plug
  brand := .value .shelly
  transportProtocol := .value .http
  controls := startsAtEight

/-- The validator accepts a condition on an object, which is not met by a device that holds it. -/
theorem schedule_condition_never_met :
    @ConfigsValidator.collectConditionErrors .unused [scheduleConfig] scheduleConfig.key .controls
        startsAtEight = .ok [] ∧
      ¬ CanBeMet [scheduleConfig] scheduleConfig.key .controls startsAtEight := by
  refine ⟨rfl, fun hall => ?_⟩
  have hentries : ∀ condition ∈ startsAtEight.entries, startsAtEight.lookup condition.1 =
      some (storedValue (sectionItems [scheduleConfig] scheduleConfig.key .controls) condition.1
        condition.2) := by
    decide +kernel
  have hmet := hall scheduledPlug none startsAtEight rfl fun name value hvalue =>
    hentries ⟨name, value⟩ (AList.mem_lookup_iff.mp hvalue)
  revert hmet
  decide +kernel

end MyHomeHub.ScenariosExecution
