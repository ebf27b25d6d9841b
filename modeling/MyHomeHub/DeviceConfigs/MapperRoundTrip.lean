import MyHomeHub.DeviceConfigs.ItemValidators
import MyHomeHub.DeviceConfigs.Mapper

/-!
# Mapping a payload to a device and back

What a device config has to declare for `mapPayloadFromDevice` to undo
`mapPayloadToDevice`, and what the two functions do to a payload of declared, valid
controls. A declared value of a boolean or enum control is translated to its path and
back. A control of another type that has a path is translated to the path itself instead
of its value, so only a value that its path happens to spell survives:
`same_up_to_enums_iff` states exactly when the payload comes back.
-/

namespace MyHomeHub.Mapper

open JavaScript

/-! ## Configs that can be inverted -/

/-- The declared values of a boolean or enum item tell each other apart, by name and by path. -/
structure InvertibleValues (item : DeviceConfigItem) : Prop where
  values_ne_nil : item.values.getD [] ≠ []
  paths_are_strings : ∀ v ∈ item.values.getD [],
    v.path.isNullish = true ∨ ∃ path, v.path = .string path
  distinct_names : ((item.values.getD []).map (·.name)).Nodup
  distinct_paths : ∀ v ∈ item.values.getD [], ∀ w ∈ item.values.getD [],
    v.path.isNullish = false → v.path = w.path → v = w
  no_path_is_name : ∀ v ∈ item.values.getD [], ∀ w ∈ item.values.getD [],
    v ≠ w → v.path ≠ .string w.name
  boolean_names : item.type = .boolean → ∀ name : String,
    name ∈ (item.values.getD []).map (·.name) ↔ name = "true" ∨ name = "false"

/-- The items tell each other apart on both sides. Names and paths are strings, as the schema of a
stored config casts them. -/
structure Invertible (items : List DeviceConfigItem) : Prop where
  names_are_strings : ∀ item ∈ items, ∃ name, item.name = .string name
  paths_are_strings : ∀ item ∈ items,
    item.path.isNullish = true ∨ ∃ path, item.path = .string path
  distinct_names : (items.map (·.name)).Nodup
  distinct_device_names : (items.map (·.deviceName)).Nodup
  invertible_values : ∀ item ∈ items, hasValues item = true → InvertibleValues item

/-- Every entry of the payload names an item and has a value that the item accepts. -/
def Accepted [ExternalCalls] (items : List DeviceConfigItem) (payload : DevicePayload) : Prop :=
  ∀ name value, payload.lookup name = some value →
    ∃ item ∈ items, item.name = .string name ∧ value.isNullish = false ∧
      validateItemValue item value = .ok none

/-- The same payload, where the values of enum items are compared as strings. -/
def SameUpToEnums (items : List DeviceConfigItem) (a b : DevicePayload) : Prop :=
  ∀ name, if (findItem items name).any (·.type = .enum)
    then (a.lookup name).map Value.toString = (b.lookup name).map Value.toString
    else a.lookup name = b.lookup name

/-- A value that survives being replaced by the path of its item: the item has declared values or
no path, or the path spells the value. -/
def SurvivesPath (item : DeviceConfigItem) (value : Value) : Prop :=
  hasValues item = true ∨ item.path.isNullish = true ∨
    (item.type = .number ∧ value = .number item.path.toNumber) ∨
    (item.type = .string ∧ value = item.path)

/-! ## One value -/

section OneValue

variable [ExternalCalls] {item : DeviceConfigItem} {value : Value}

/-- An accepted value of a boolean or enum item is declared. -/
theorem declared_of_accepted (hvalues : InvertibleValues item) (hhas : hasValues item = true)
    (hvalue : value.isNullish = false) (h : validateItemValue item value = .ok none) :
    ∃ v ∈ item.values.getD [], v.name = value.toString := by
  simp only [hasValues, Bool.or_eq_true, decide_eq_true_eq] at hhas
  rcases hhas with htype | htype
  · obtain ⟨b, rfl⟩ := accepted_boolean htype hvalue h
    have hname := (hvalues.boolean_names htype (Value.bool b).toString).mpr (by cases b <;> simp)
    simpa using hname
  · exact accepted_enum htype hvalue hvalues.values_ne_nil h

omit [ExternalCalls] in
/-- The declared value of an accepted value is found by its name. -/
theorem find_matches_name (hvalues : InvertibleValues item) {v : DeviceConfigItemValue}
    (hv : v ∈ item.values.getD []) (hname : v.name = value.toString) :
    (item.values.getD []).find? (matchesName value) = some v := by
  cases h : (item.values.getD []).find? (matchesName value) with
  | none =>
      have hnot := List.find?_eq_none.mp h v hv
      simp [matchesName, hname] at hnot
  | some w =>
      have hw : w.name = value.toString := by simpa [matchesName] using List.find?_some h
      have hmem := List.mem_of_find?_eq_some h
      exact congrArg some
        (List.inj_on_of_nodup_map hvalues.distinct_names hmem hv (hw.trans hname.symm))

omit [ExternalCalls] in
/-- The value a device gets for a declared value leads back to the declared value. -/
theorem find_declared_value (hvalues : InvertibleValues item) {v : DeviceConfigItemValue}
    (hv : v ∈ item.values.getD []) (hname : v.name = value.toString) :
    ((item.values.getD []).find? (matchesPath (v.path.orElse value))).or
      ((item.values.getD []).find? (matchesName (v.path.orElse value))) = some v := by
  have hpath : ∀ w ∈ item.values.getD [], ∀ text : Value,
      matchesPath text w = true → w.path = .string text.toString := by
    intro w _ text h
    exact Value.strict_eq_string.mp h
  rcases hvalues.paths_are_strings v hv with hnullish | ⟨path, hstring⟩
  · -- Without a path the device gets the value itself, which no path spells.
    rw [Value.or_else_of_nullish hnullish]
    have hnone : (item.values.getD []).find? (matchesPath value) = none := by
      rw [List.find?_eq_none]
      intro w hw hmatch
      have hwpath := hpath w hw value hmatch
      by_cases hwv : w = v
      · rw [← hwv, hwpath] at hnullish
        simp at hnullish
      · exact hvalues.no_path_is_name w hw v hv hwv (by rw [hwpath, hname])
    rw [hnone, Option.none_or, find_matches_name hvalues hv hname]
  · rw [hstring, Value.string_or_else]
    cases h : (item.values.getD []).find? (matchesPath (.string path)) with
    | none =>
        have hnot := List.find?_eq_none.mp h v hv
        simp [matchesPath, hstring] at hnot
    | some w =>
        have hmem := List.mem_of_find?_eq_some h
        have hw := hpath w hmem _ (List.find?_some h)
        rw [Value.to_string_string] at hw
        have hsame := hvalues.distinct_paths w hmem v hv (by rw [hw]; rfl) (hw.trans hstring.symm)
        rw [hsame, Option.some_or]

/-- What comes back for an accepted value. -/
def returnedValue (item : DeviceConfigItem) (value : Value) : Value :=
  mapValueFromDevice item (mapValueToDevice item value)

/-- A boolean comes back as it is, and an enum value as the string it stands for. -/
theorem returned_of_has_values (hvalues : InvertibleValues item) (hhas : hasValues item = true)
    (hvalue : value.isNullish = false) (h : validateItemValue item value = .ok none) :
    returnedValue item value = if item.type = .enum then .string value.toString else value := by
  obtain ⟨v, hv, hname⟩ := declared_of_accepted hvalues hhas hvalue h
  have hto : mapValueToDevice item value = v.path.orElse value := by
    rw [mapValueToDevice, if_pos hhas, find_matches_name hvalues hv hname]
  rw [returnedValue, hto, mapValueFromDevice, if_pos hhas, find_declared_value hvalues hv hname]
  simp only [hasValues, Bool.or_eq_true, decide_eq_true_eq] at hhas
  rcases hhas with htype | htype
  · obtain ⟨b, rfl⟩ := accepted_boolean htype hvalue h
    simp only [hname, htype]
    cases b <;> rfl
  · simp only [hname, htype]
    rfl

/-- A control without a path gets its value back. -/
theorem returned_of_no_path (hhas : hasValues item = false) (hnullish : item.path.isNullish = true)
    (hvalue : value.isNullish = false) (h : validateItemValue item value = .ok none) :
    returnedValue item value = value := by
  have hto : mapValueToDevice item value = value := by
    rw [mapValueToDevice, if_neg (by simp [hhas]), Value.or_else_of_nullish hnullish]
  rw [returnedValue, hto, mapValueFromDevice, if_neg (by simp [hhas])]
  by_cases htype : item.type = .number
  · obtain ⟨n, rfl, hfinite⟩ := accepted_number htype hvalue h
    rw [if_pos htype]
    cases n with
    | nan => simp [Number.isFinite] at hfinite
    | infinity negative => rfl
    | finite value => rfl
  · rw [if_neg htype]

omit [ExternalCalls] in
/-- A control with a path gets the path back, as a number where the control is one. -/
theorem returned_of_path (hhas : hasValues item = false) {path : String}
    (hpath : item.path = .string path) :
    returnedValue item value =
      if item.type = .number ∧ (Value.string path).toNumber ≠ .nan
      then .number (Value.string path).toNumber else .string path := by
  have hto : mapValueToDevice item value = .string path := by
    rw [mapValueToDevice, if_neg (by simp [hhas]), hpath, Value.string_or_else]
  rw [returnedValue, hto, mapValueFromDevice, if_neg (by simp [hhas])]
  by_cases htype : item.type = .number
  · simp only [htype, if_true, true_and]
    cases (Value.string path).toNumber <;> simp
  · simp [htype]

/-- An accepted value comes back, up to the string form of an enum value, exactly when it survives
the path of its item. -/
theorem returned_iff (hitem : InvertibleValues item ∨ hasValues item = false)
    (hpaths : item.path.isNullish = true ∨ ∃ path, item.path = .string path)
    (hvalue : value.isNullish = false) (h : validateItemValue item value = .ok none) :
    (if item.type = .enum then (returnedValue item value).toString = value.toString
      else returnedValue item value = value) ↔ SurvivesPath item value := by
  cases hhas : hasValues item with
  | true =>
      have hvalues := hitem.resolve_right (by simp [hhas])
      rw [returned_of_has_values hvalues hhas hvalue h]
      simp only [SurvivesPath, hhas, true_or, iff_true]
      by_cases htype : item.type = .enum
      · simp [htype]
      · simp [htype]
  | false =>
      have hnotEnum : item.type ≠ .enum := by
        intro htype
        simp [hasValues, htype] at hhas
      rw [if_neg hnotEnum]
      rcases hpaths with hnullish | ⟨path, hpath⟩
      · simp [SurvivesPath, hnullish, returned_of_no_path hhas hnullish hvalue h]
      · rw [returned_of_path hhas hpath]
        simp only [SurvivesPath, hhas, hpath, Value.is_nullish_string, Bool.false_eq_true,
          false_or]
        by_cases htype : item.type = .number
        · obtain ⟨n, rfl, hfinite⟩ := accepted_number htype hvalue h
          by_cases hnan : (Value.string path).toNumber = .nan
          · have hne : n ≠ .nan := by
              rintro rfl
              simp [Number.isFinite] at hfinite
            simp [htype, hnan, hne]
          · simp [htype, hnan, eq_comm]
        · simp only [htype, false_and, if_false, false_or]
          by_cases hstring : item.type = .string
          · simp [hstring, eq_comm]
          · -- Neither a number nor a string nor declared values: an object, which no path is.
            have hobject : item.type = .object := by
              cases hcases : item.type <;> simp_all [hasValues]
            obtain ⟨fields, rfl⟩ := accepted_object hobject hvalue h
            simp [hobject]

end OneValue

/-! ## Whole payloads -/

section Payload

variable [ExternalCalls] {items : List DeviceConfigItem} {payload : DevicePayload}

/-- The item that an accepted entry names. -/
theorem Accepted.find_item (hitems : Invertible items) (h : Accepted items payload)
    {name : String} {value : Value} (hlookup : payload.lookup name = some value) :
    ∃ item ∈ items, findItem items name = some item ∧ item.name = .string name ∧
      value.isNullish = false ∧ validateItemValue item value = .ok none := by
  obtain ⟨item, hitem, hname, hvalue, haccepted⟩ := h name value hlookup
  exact ⟨item, hitem, find_item_of_mem hitems.distinct_names hitem hname, hname, hvalue,
    haccepted⟩

omit [ExternalCalls] in
/-- The device-side name of an item is a string. -/
theorem Invertible.device_name (hitems : Invertible items) {item : DeviceConfigItem}
    (hitem : item ∈ items) : item.deviceName = .string item.deviceName.toString := by
  rcases hitems.paths_are_strings item hitem with hnullish | ⟨path, hpath⟩
  · obtain ⟨name, hname⟩ := hitems.names_are_strings item hitem
    rw [DeviceConfigItem.deviceName, Value.or_else_of_nullish hnullish, hname]
    rfl
  · rw [DeviceConfigItem.deviceName, hpath]
    rfl

/-- The item of a mapped entry is found again from what the device gets. -/
theorem find_config_item (hitems : Invertible items) {item : DeviceConfigItem} {value : Value}
    (hitem : item ∈ items) (hvalue : value.isNullish = false)
    (h : validateItemValue item value = .ok none) :
    findConfigItem items item.deviceName.toString (mapValueToDevice item value) = some item := by
  have hmatch : item.deviceName.strictEq (.string item.deviceName.toString) = true :=
    Value.strict_eq_string.mpr (hitems.device_name hitem)
  have hdeclared : (!hasValues item || (item.values.getD []).any fun itemValue =>
      matchesPath (mapValueToDevice item value) itemValue ||
        matchesName (mapValueToDevice item value) itemValue) = true := by
    cases hhas : hasValues item with
    | false => rfl
    | true =>
        have hvalues := hitems.invertible_values item hitem hhas
        obtain ⟨v, hv, hname⟩ := declared_of_accepted hvalues hhas hvalue h
        have hfound := find_declared_value hvalues hv hname
        rw [Bool.not_true, Bool.false_or, List.any_eq_true, mapValueToDevice, if_pos hhas,
          find_matches_name hvalues hv hname]
        rcases Option.or_eq_some_iff.mp hfound with hpath | ⟨-, hname⟩
        · exact ⟨v, hv, by rw [List.find?_some hpath, Bool.true_or]⟩
        · exact ⟨v, hv, by rw [List.find?_some hname, Bool.or_true]⟩
  cases hfind : findConfigItem items item.deviceName.toString (mapValueToDevice item value) with
  | none =>
      have hnot := List.find?_eq_none.mp hfind item hitem
      exact absurd (by rw [hmatch, hdeclared, Bool.true_and]) hnot
  | some other =>
      have hother := List.find?_some
        (p := fun other : DeviceConfigItem =>
          other.deviceName.strictEq (.string item.deviceName.toString) && _) hfind
      rw [Bool.and_eq_true, Value.strict_eq_string] at hother
      have hsame : other.deviceName = item.deviceName :=
        hother.1.trans (hitems.device_name hitem).symm
      exact congrArg some (List.inj_on_of_nodup_map hitems.distinct_device_names
        (List.mem_of_find?_eq_some hfind) hitem hsame)

/-- The entries of an accepted payload, one by one. -/
theorem Accepted.entry (hitems : Invertible items) (h : Accepted items payload)
    {entry : Σ _ : String, Value} (hentry : entry ∈ payload.entries) :
    ∃ item ∈ items, findItem items entry.1 = some item ∧ item.name = .string entry.1 := by
  obtain ⟨item, hitem, hfind, hname, -⟩ := h.find_item hitems (AList.mem_lookup_iff.mpr hentry)
  exact ⟨item, hitem, hfind, hname⟩

/-- What the device gets: every entry under its device-side name. -/
theorem lookup_payload_to_device {config : DeviceConfig}
    (hcommands : config.commands.getD [] = []) (hcontrols : config.controls.getD [] = items)
    (hne : items ≠ []) (hitems : Invertible items) (haccepted : Accepted items payload)
    {deviceName : String} {deviceValue : Value} :
    (mapPayloadToDevice (some config) payload).lookup deviceName = some deviceValue ↔
      ∃ name value item, payload.lookup name = some value ∧ findItem items name = some item ∧
        deviceName = item.deviceName.toString ∧ deviceValue = mapValueToDevice item value := by
  have hmem : ∀ {a : Value}, ⟨deviceName, a⟩ ∈ payload.entries.map (mapEntryToDevice items) ↔
      ∃ name value item, payload.lookup name = some value ∧ findItem items name = some item ∧
        deviceName = item.deviceName.toString ∧ a = mapValueToDevice item value := by
    intro a
    rw [List.mem_map]
    constructor
    · intro h
      obtain ⟨entry, hentry, hmapped⟩ := h
      obtain ⟨item, -, hfind, -⟩ := haccepted.entry hitems hentry
      rw [mapEntryToDevice, hfind] at hmapped
      cases hmapped
      exact ⟨entry.1, entry.2, item, AList.mem_lookup_iff.mpr hentry, hfind, rfl, rfl⟩
    · intro h
      obtain ⟨name, value, item, hlookup, hfind, rfl, rfl⟩ := h
      exact ⟨⟨name, value⟩, AList.mem_lookup_iff.mp hlookup, by rw [mapEntryToDevice, hfind]⟩
  simp only [mapPayloadToDevice, Option.bind_some, hcommands, hcontrols, List.nil_append,
    List.isEmpty_iff, if_neg hne]
  rw [Object.lookup_of_assignments, hmem]
  intro a b ha hb
  obtain ⟨name, value, item, hlookup, hfind, hdevice, rfl⟩ := hmem.mp ha
  obtain ⟨name', value', item', hlookup', hfind', hdevice', rfl⟩ := hmem.mp hb
  obtain ⟨hitem, hname⟩ := find_item_some hfind
  obtain ⟨hitem', hname'⟩ := find_item_some hfind'
  have hdeviceName : item.deviceName = item'.deviceName := by
    rw [hitems.device_name hitem, hitems.device_name hitem', ← hdevice, ← hdevice']
  have hsame := List.inj_on_of_nodup_map hitems.distinct_device_names hitem hitem' hdeviceName
  subst hsame
  obtain rfl : name = name' := by
    rw [hname, Value.string.injEq] at hname'
    exact hname'
  rw [hlookup, Option.some.injEq] at hlookup'
  rw [hlookup']

/-- What comes back: every entry under its name, with its returned value. -/
theorem lookup_payload_round_trip {config : DeviceConfig}
    (hcommands : config.commands.getD [] = []) (hcontrols : config.controls.getD [] = items)
    (hne : items ≠ []) (hitems : Invertible items) (haccepted : Accepted items payload)
    {name : String} {returned : Value} :
    (mapPayloadFromDevice (some config) .controls
        (mapPayloadToDevice (some config) payload)).lookup name = some returned ↔
      ∃ value item, payload.lookup name = some value ∧ findItem items name = some item ∧
        returned = returnedValue item value := by
  have hdevice : ∀ entry ∈ (mapPayloadToDevice (some config) payload).entries,
      ∃ name value item, payload.lookup name = some value ∧ findItem items name = some item ∧
        findConfigItem items entry.1 entry.2 = some item ∧ item.name = .string name ∧
        mapValueFromDevice item entry.2 = returnedValue item value ∧
        entry = ⟨item.deviceName.toString, mapValueToDevice item value⟩ := by
    intro entry hentry
    obtain ⟨deviceName, deviceValue⟩ := entry
    obtain ⟨name, value, item, hlookup, hfind, rfl, rfl⟩ :=
      (lookup_payload_to_device hcommands hcontrols hne hitems haccepted).mp
        (AList.mem_lookup_iff.mpr hentry)
    obtain ⟨item', hitem', hfind', hname, hvalue, hvalid⟩ := haccepted.find_item hitems hlookup
    obtain rfl : item = item' := Option.some.inj (hfind.symm.trans hfind')
    exact ⟨name, value, item, hlookup, hfind, find_config_item hitems hitem' hvalue hvalid, hname,
      rfl, rfl⟩
  have hmem : ∀ {a : Value}, ⟨name, a⟩ ∈
      (mapPayloadToDevice (some config) payload).entries.map (mapEntryFromDevice items) ↔
      ∃ value item, payload.lookup name = some value ∧ findItem items name = some item ∧
        a = returnedValue item value := by
    intro a
    rw [List.mem_map]
    constructor
    · intro h
      obtain ⟨entry, hentry, hmapped⟩ := h
      obtain ⟨name', value, item, hlookup, hfind, hconfig, hname, hreturned, -⟩ :=
        hdevice entry hentry
      rw [mapEntryFromDevice, hconfig] at hmapped
      simp only [hname, Value.to_string_string, hreturned, Sigma.mk.injEq, heq_eq_eq] at hmapped
      obtain ⟨rfl, rfl⟩ := hmapped
      exact ⟨value, item, hlookup, hfind, rfl⟩
    · intro h
      obtain ⟨value, item, hlookup, hfind, rfl⟩ := h
      obtain ⟨item', hitem', hfind', hname, hvalue, hvalid⟩ := haccepted.find_item hitems hlookup
      obtain rfl : item = item' := Option.some.inj (hfind.symm.trans hfind')
      have hentry := AList.mem_lookup_iff.mp
        ((lookup_payload_to_device hcommands hcontrols hne hitems haccepted).mpr
          ⟨name, value, item, hlookup, hfind, rfl, rfl⟩)
      refine ⟨_, hentry, ?_⟩
      simp only [mapEntryFromDevice, find_config_item hitems hitem' hvalue hvalid, hname]
      rfl
  have hcontrols' : (config.items .controls).getD [] = items := hcontrols
  rw [mapPayloadFromDevice]
  simp only [Option.bind_some, hcontrols', List.isEmpty_iff, if_neg hne]
  rw [Object.lookup_of_assignments, hmem]
  intro a b ha hb
  obtain ⟨value, item, hlookup, hfind, rfl⟩ := hmem.mp ha
  obtain ⟨value', item', hlookup', hfind', rfl⟩ := hmem.mp hb
  rw [Option.some.inj (hlookup.symm.trans hlookup'), Option.some.inj (hfind.symm.trans hfind')]

end Payload

/-- For a config without commands whose controls tell each other apart, and for a payload of valid
declared controls, mapping the payload to the device and back gives the payload again exactly when
every value survives the path of its control. -/
theorem same_up_to_enums_iff [ExternalCalls] (config : DeviceConfig) (payload : DevicePayload)
    (hcommands : config.commands.getD [] = [])
    (hcontrols : Invertible (config.controls.getD []))
    (haccepted : Accepted (config.controls.getD []) payload) :
    SameUpToEnums (config.controls.getD [])
        (mapPayloadFromDevice (some config) .controls (mapPayloadToDevice (some config) payload))
        payload ↔
      ∀ name value item, payload.lookup name = some value →
        findItem (config.controls.getD []) name = some item → SurvivesPath item value := by
  by_cases hne : config.controls.getD [] = []
  · have hitems : (config.items .controls).getD [] = [] := hne
    simp [mapPayloadFromDevice, mapPayloadToDevice, hcommands, hne, hitems, SameUpToEnums,
      findItem]
  have hround : ∀ {name : String} {returned : Value}, _ :=
    fun {name returned} => @lookup_payload_round_trip _ _ payload _ hcommands rfl hne hcontrols
      haccepted name returned
  -- where the payload has no entry, nothing comes back
  have hnone : ∀ name, payload.lookup name = none →
      (mapPayloadFromDevice (some config) .controls
        (mapPayloadToDevice (some config) payload)).lookup name = none := by
    intro name hlookup
    rw [Option.eq_none_iff_forall_ne_some]
    intro returned hreturned
    obtain ⟨value, item, hsome, -⟩ := hround.mp hreturned
    rw [hlookup] at hsome
    cases hsome
  have hentry : ∀ name value item, payload.lookup name = some value →
      findItem (config.controls.getD []) name = some item →
      ((if (findItem (config.controls.getD []) name).any (·.type = .enum)
        then ((mapPayloadFromDevice (some config) .controls
          (mapPayloadToDevice (some config) payload)).lookup name).map Value.toString =
            (payload.lookup name).map Value.toString
        else (mapPayloadFromDevice (some config) .controls
          (mapPayloadToDevice (some config) payload)).lookup name = payload.lookup name) ↔
        SurvivesPath item value) := by
    intro name value item hlookup hfind
    obtain ⟨item', hitem', hfind', -, hvalue, hvalid⟩ := haccepted.find_item hcontrols hlookup
    obtain rfl : item = item' := Option.some.inj (hfind.symm.trans hfind')
    have hinvertible : InvertibleValues item ∨ hasValues item = false := by
      cases hhas : hasValues item with
      | true => exact .inl (hcontrols.invertible_values item hitem' hhas)
      | false => exact .inr rfl
    rw [hround.mpr ⟨value, item, hlookup, hfind, rfl⟩, hlookup, hfind,
      ← returned_iff hinvertible (hcontrols.paths_are_strings item hitem') hvalue hvalid]
    simp
  constructor
  · intro hsame name value item hlookup hfind
    exact (hentry name value item hlookup hfind).mp (hsame name)
  · intro hsurvives name
    cases hlookup : payload.lookup name with
    | none => simp [hnone name hlookup]
    | some value =>
        obtain ⟨item, -, hfind, -⟩ := haccepted.find_item hcontrols hlookup
        rw [← hlookup]
        exact (hentry name value item hlookup hfind).mpr (hsurvives name value item hlookup hfind)

/-! ## A dimmer -/

/-- A switch that a device calls `state` and sets to `ON` and `OFF`. -/
def powerControl : DeviceConfigItem where
  label := .string "Power"
  name := .string "on"
  type := .boolean
  path := .string "state"
  values := some
    [⟨.string "On", "true", .string "ON"⟩, ⟨.string "Off", "false", .string "OFF"⟩]

/-- A brightness that a device knows under a path, if there is one. -/
def brightnessControl (path : Value) : DeviceConfigItem where
  label := .string "Brightness"
  name := .string "brightness"
  type := .number
  path := path

/-- The config of a light with a switch and a brightness. -/
def dimmerConfig (path : Value) : DeviceConfig where
  brand := .philips
  type := .led
  transportProtocol := .zigbee
  controls := some [powerControl, brightnessControl path]

/-- A payload that switches the light on at half its brightness. -/
def dimmerPayload : DevicePayload :=
  .ofAssignments [⟨"on", .bool true⟩, ⟨"brightness", .number (.finite 50)⟩]

theorem power_control_invertible : InvertibleValues powerControl := by
  constructor <;> simp [powerControl]

theorem dimmer_config_invertible {path : Value} (h : path = .undefined ∨ path = .string "bri") :
    Invertible ((dimmerConfig path).controls.getD []) := by
  have hcontrols : (dimmerConfig path).controls.getD [] = [powerControl, brightnessControl path] :=
    rfl
  have hvalues : ∀ item ∈ [powerControl, brightnessControl path],
      hasValues item = true → InvertibleValues item := by
    intro item hitem hhas
    rcases List.mem_pair.mp hitem with rfl | rfl
    · exact power_control_invertible
    · simp [brightnessControl, hasValues] at hhas
  rw [hcontrols]
  rcases h with rfl | rfl
  · refine ⟨?_, ?_, ?_, ?_, hvalues⟩
    all_goals simp [powerControl, brightnessControl, DeviceConfigItem.deviceName]
    decide
  · refine ⟨?_, ?_, ?_, ?_, hvalues⟩
    all_goals simp [powerControl, brightnessControl, DeviceConfigItem.deviceName]

theorem dimmer_payload_accepted [ExternalCalls] (path : Value) :
    Accepted ((dimmerConfig path).controls.getD []) dimmerPayload := by
  refine Object.forall_entries.mp ?_
  have hentries : dimmerPayload.entries =
      [⟨"on", .bool true⟩, ⟨"brightness", .number (.finite 50)⟩] := rfl
  rw [hentries]
  intro entry hentry
  simp only [List.mem_cons, List.not_mem_nil, or_false] at hentry
  rcases hentry with rfl | rfl
  · exact ⟨powerControl, by simp [dimmerConfig], rfl, rfl, rfl⟩
  · exact ⟨brightnessControl path, by simp [dimmerConfig], rfl, rfl, rfl⟩

/-- Without a path for the brightness the payload comes back. -/
theorem same_up_to_enums_iff_dimmer :
    SameUpToEnums ((dimmerConfig .undefined).controls.getD [])
      (mapPayloadFromDevice (some (dimmerConfig .undefined)) .controls
        (mapPayloadToDevice (some (dimmerConfig .undefined)) dimmerPayload)) dimmerPayload := by
  refine (@same_up_to_enums_iff .unused (dimmerConfig .undefined) dimmerPayload rfl
    (dimmer_config_invertible (.inl rfl)) (@dimmer_payload_accepted .unused .undefined)).mpr ?_
  intro name value item hlookup hfind
  rcases List.mem_pair.mp (find_item_some hfind).1 with rfl | rfl
  · exact .inl rfl
  · exact .inr (.inl rfl)

/-- A brightness with a path is replaced by the path on its way to the device, so the device is
told `bri: "bri"` and the payload does not come back. -/
theorem brightness_path_replaces_value :
    (dimmerConfig (.string "bri")).commands.getD [] = [] ∧
    Invertible ((dimmerConfig (.string "bri")).controls.getD []) ∧
    @Accepted .unused ((dimmerConfig (.string "bri")).controls.getD []) dimmerPayload ∧
    (mapPayloadToDevice (some (dimmerConfig (.string "bri"))) dimmerPayload).lookup "bri" =
      some (.string "bri") ∧
    ¬ SameUpToEnums ((dimmerConfig (.string "bri")).controls.getD [])
      (mapPayloadFromDevice (some (dimmerConfig (.string "bri"))) .controls
        (mapPayloadToDevice (some (dimmerConfig (.string "bri"))) dimmerPayload))
      dimmerPayload := by
  refine ⟨rfl, dimmer_config_invertible (.inr rfl), @dimmer_payload_accepted .unused _,
    by decide +kernel, ?_⟩
  intro h
  have hbrightness := h "brightness"
  revert hbrightness
  decide +kernel

end MyHomeHub.Mapper
