import MyHomeHub.DeviceConfigs.Mapper
import MyHomeHub.Library.Assignments

/-!
# Categorizing the payload of a device

`categorizeAndMapPayloadFromDevice` puts each field that a device reports into the first
section of its config with an item that matches, under the name of the item and with the
translated value. A later field takes the place of an earlier one with the same section and
name.
-/

namespace MyHomeHub.Mapper

open JavaScript Library

/-- `DEVICE_CONFIG_SECTIONS` -/
def DEVICE_CONFIG_SECTIONS : List DeviceConfigSection :=
  [.commands, .controls, .measurements]

/-- `config[section] ?? []` -/
def itemsAt (config : DeviceConfig) (place : DeviceConfigSection) : List DeviceConfigItem :=
  (config.items place).getD []

/-- `ParsedDeviceConfigPayload` -/
structure ParsedDeviceConfigPayload where
  commands : DevicePayload := ∅
  controls : DevicePayload := ∅
  measurements : DevicePayload := ∅

namespace ParsedDeviceConfigPayload

/-- `payload[section]` -/
def ofSection (payload : ParsedDeviceConfigPayload) : DeviceConfigSection → DevicePayload
  | .commands => payload.commands
  | .controls => payload.controls
  | .measurements => payload.measurements

/-- `payload[section][name] = value` -/
def put (payload : ParsedDeviceConfigPayload) (place : DeviceConfigSection) (name : String)
    (value : Value) : ParsedDeviceConfigPayload :=
  match place with
  | .commands => { payload with commands := payload.commands.insert name value }
  | .controls => { payload with controls := payload.controls.insert name value }
  | .measurements => { payload with measurements := payload.measurements.insert name value }

end ParsedDeviceConfigPayload

/-- `assignToSection` from a section on: the payload after the call, and what it returns. -/
def assignToSection (config : DeviceConfig) (payload : ParsedDeviceConfigPayload) (name : String)
    (value : Value) : List DeviceConfigSection → ParsedDeviceConfigPayload × Bool
  | [] => (payload, false)
  | place :: rest =>
      match findConfigItem (itemsAt config place) name value with
      | some item =>
          (payload.put place item.name.toString (mapValueFromDevice item value), true)
      | none => assignToSection config payload name value rest

/-- The payload of the sections, and the names that are logged as dropped. -/
structure Categorized where
  payload : ParsedDeviceConfigPayload := {}
  droppedNames : List String := []

/-- The body of the loop over the fields. -/
def categorizeField (config : DeviceConfig) (state : Categorized) (field : Σ _ : String, Value) :
    Categorized :=
  match assignToSection config state.payload field.1 field.2 DEVICE_CONFIG_SECTIONS with
  | (payload, true) => { state with payload := payload }
  | (payload, false) =>
      { payload := payload, droppedNames := state.droppedNames ++ [field.1] }

/-- `categorizeAndMapPayloadFromDevice` -/
def categorizeAndMapPayloadFromDevice (config : Option DeviceConfig) (payload : DevicePayload) :
    Categorized :=
  match config with
  | none => {}
  | some config => payload.entries.foldl (categorizeField config) {}

/-! ## What is expected -/

/-- A reported field is one of an item: the device-side name is that of the item and, for a Boolean
or enum item, the value is the path or the name of a declared one. -/
def Matches (item : DeviceConfigItem) (field : Σ _ : String, Value) : Prop :=
  item.deviceName = .string field.1 ∧
    (item.type = .boolean ∨ item.type = .enum → ∃ declared ∈ item.values.getD [],
      declared.path = .string field.2.toString ∨ declared.name = field.2.toString)

/-- The item is the first one that matches in the first section in which one does. -/
structure IsFirstMatch (config : DeviceConfig) (field : Σ _ : String, Value)
    (place : DeviceConfigSection) (item : DeviceConfigItem) : Prop where
  isMatch : Matches item field
  inSection : ∃ before after, itemsAt config place = before ++ item :: after ∧
    ∀ other ∈ before, ¬ Matches other field
  inConfig : ∃ before after, DEVICE_CONFIG_SECTIONS = before ++ place :: after ∧
    ∀ earlier ∈ before, ∀ other ∈ itemsAt config earlier, ¬ Matches other field

/-- What a number item gets: a string that is not blank is read as a number, if it is one. -/
def expectedNumber : Value → Value
  | .string s =>
      if trim s = "" || Number.ofString s = .nan then .string s else .number (.ofString s)
  | value => value

/-- What an item gets for a value: only a number item differs from what is mapped. -/
def expectedValue (item : DeviceConfigItem) (value : Value) : Value :=
  if item.type = .number then expectedNumber value else mapValueFromDevice item value

/-- The result is a value of the kind that the item declares, or the value that was reported. -/
structure NotInvented (item : DeviceConfigItem) (value result : Value) : Prop where
  boolean : item.type = .boolean → ∃ b, result = .bool b
  enum : item.type = .enum →
    ∃ declared ∈ item.values.getD [], result = .string declared.name
  number : item.type = .number → result = value ∨
    ∃ s n, value = .string s ∧ trim s ≠ "" ∧ Number.ofString s = n ∧ n ≠ .nan ∧
      result = .number n
  other : item.type = .string ∨ item.type = .object → result = value

/-- Every field that an item matches stands in the section of its first match with the expected
value, every other is dropped, and nothing else is in any section. -/
structure Categorizes (config : DeviceConfig) (payload : DevicePayload) : Prop where
  placed : ∀ field ∈ payload.entries, ∀ place item, IsFirstMatch config field place item →
    ((categorizeAndMapPayloadFromDevice config payload).payload.ofSection place).lookup
      item.name.toString = some (expectedValue item field.2)
  dropped : ∀ field ∈ payload.entries,
    field.1 ∈ (categorizeAndMapPayloadFromDevice config payload).droppedNames ↔
      ∀ place, ∀ item ∈ itemsAt config place, ¬ Matches item field
  only : ∀ place name value,
    ((categorizeAndMapPayloadFromDevice config payload).payload.ofSection place).lookup name =
        some value →
      ∃ field ∈ payload.entries, ∃ item, IsFirstMatch config field place item ∧
        item.name.toString = name ∧ NotInvented item field.2 value

/-! ## When it is met -/

/-- A value that `Number` makes a number of although it is neither a number nor the text of one. -/
def IsCoerced : Value → Prop
  | .null | .bool _ => True
  | .string s => trim s = ""
  | .array elements => (Value.array elements).toNumber ≠ .nan
  | .undefined | .number _ | .object _ => False

/-- Two fields that are put under the same name into the same section mean the same, and the last
one there does not report a coerced value for a number item. -/
structure Unambiguous (config : DeviceConfig) (payload : DevicePayload) : Prop where
  sameValues : ∀ field ∈ payload.entries, ∀ other ∈ payload.entries, ∀ place item otherItem,
    IsFirstMatch config field place item → IsFirstMatch config other place otherItem →
      item.name.toString = otherItem.name.toString →
        expectedValue item field.2 = expectedValue otherItem other.2
  notCoerced : ∀ (i : Nat) field place item, payload.entries[i]? = some field →
    IsFirstMatch config field place item → item.type = .number →
      (∀ (j : Nat) other otherItem, i < j → payload.entries[j]? = some other →
        IsFirstMatch config other place otherItem →
          otherItem.name.toString ≠ item.name.toString) →
        ¬ IsCoerced field.2

variable {config : DeviceConfig} {payload : DevicePayload} {field : Σ _ : String, Value}
  {place : DeviceConfigSection} {item : DeviceConfigItem} {items : List DeviceConfigItem}
  {name : String} {value : Value}

/-! ## One field -/

theorem matches_iff :
    (item.deviceName.strictEq (.string field.1) &&
      (!hasValues item || (item.values.getD []).any fun itemValue =>
        matchesPath field.2 itemValue || matchesName field.2 itemValue)) = true ↔
      Matches item field := by
  rw [Bool.and_eq_true, Value.strict_eq_string]
  refine and_congr_right fun _ => ?_
  rw [Bool.or_eq_true, Bool.not_eq_true', List.any_eq_true]
  have hvalues : hasValues item = true ↔ item.type = .boolean ∨ item.type = .enum := by
    rw [hasValues, Bool.or_eq_true, decide_eq_true_eq, decide_eq_true_eq]
  have hdeclared : ∀ declared, (matchesPath field.2 declared || matchesName field.2 declared) =
      true ↔ declared.path = .string field.2.toString ∨ declared.name = field.2.toString := by
    intro declared
    rw [Bool.or_eq_true, matchesPath, Value.strict_eq_string, matchesName, decide_eq_true_eq]
  rw [← hvalues, ← Bool.not_eq_true, imp_iff_not_or]
  exact or_congr_right (exists_congr fun declared => and_congr_right fun _ => hdeclared declared)

theorem find_config_item_some_iff :
    findConfigItem items field.1 field.2 = some item ↔
      Matches item field ∧ ∃ before after, items = before ++ item :: after ∧
        ∀ other ∈ before, ¬ Matches other field := by
  unfold findConfigItem
  rw [List.find?_eq_some_iff_append, matches_iff]
  refine and_congr_right fun _ => exists_congr fun before => exists_congr fun after =>
    and_congr_right fun _ => forall₂_congr fun other _ => ?_
  rw [Bool.not_eq_true', ← Bool.not_eq_true, matches_iff]

theorem find_config_item_none_iff :
    findConfigItem items field.1 field.2 = none ↔ ∀ item ∈ items, ¬ Matches item field := by
  unfold findConfigItem
  rw [List.find?_eq_none]
  exact forall₂_congr fun item _ => not_congr matches_iff

/-- Where a field is put: the section and the item of its first match. -/
def destination (config : DeviceConfig) (field : Σ _ : String, Value) :
    Option (DeviceConfigSection × DeviceConfigItem) :=
  DEVICE_CONFIG_SECTIONS.findSome? fun place =>
    (findConfigItem (itemsAt config place) field.1 field.2).map fun item => (place, item)

theorem destination_some_iff :
    destination config field = some (place, item) ↔ IsFirstMatch config field place item := by
  have hnone : ∀ other : DeviceConfigSection,
      (findConfigItem (itemsAt config other) field.1 field.2).map (fun item => (other, item)) =
        none ↔ ∀ item ∈ itemsAt config other, ¬ Matches item field := by
    intro other
    rw [Option.map_eq_none_iff, find_config_item_none_iff]
  unfold destination
  rw [List.findSome?_eq_some_iff]
  refine ⟨?_, fun h => ?_⟩
  · rintro ⟨before, found, after, hsections, hfound, hbefore⟩
    obtain ⟨foundItem, hitem, hpair⟩ := Option.map_eq_some_iff.mp hfound
    cases hpair
    obtain ⟨hmatch, hsection⟩ := find_config_item_some_iff.mp hitem
    exact ⟨hmatch, hsection, before, after, hsections,
      fun earlier hearlier => (hnone earlier).mp (hbefore earlier hearlier)⟩
  · obtain ⟨before, after, hsections, hbefore⟩ := h.inConfig
    refine ⟨before, place, after, hsections, ?_,
      fun earlier hearlier => (hnone earlier).mpr (hbefore earlier hearlier)⟩
    rw [find_config_item_some_iff.mpr ⟨h.isMatch, h.inSection⟩]
    rfl

theorem mem_sections : place ∈ DEVICE_CONFIG_SECTIONS := by
  cases place <;> decide

theorem destination_none_iff :
    destination config field = none ↔
      ∀ place, ∀ item ∈ itemsAt config place, ¬ Matches item field := by
  unfold destination
  rw [List.findSome?_eq_none_iff]
  refine ⟨fun h place => ?_, fun h place _ => ?_⟩
  · exact find_config_item_none_iff.mp (Option.map_eq_none_iff.mp (h place mem_sections))
  · exact Option.map_eq_none_iff.mpr (find_config_item_none_iff.mpr (h place))

/-- `assignToSection` puts a field where it belongs. -/
theorem assign_to_section_eq (payload : ParsedDeviceConfigPayload) :
    assignToSection config payload field.1 field.2 DEVICE_CONFIG_SECTIONS =
      match destination config field with
      | some (place, item) =>
          (payload.put place item.name.toString (mapValueFromDevice item field.2), true)
      | none => (payload, false) := by
  unfold destination
  induction DEVICE_CONFIG_SECTIONS with
  | nil => rfl
  | cons place rest ih =>
      rw [assignToSection, List.findSome?_cons]
      cases findConfigItem (itemsAt config place) field.1 field.2 with
      | none => exact ih
      | some item => rfl

/-! ## All fields -/

/-- A name in a section. -/
structure SectionName where
  place : DeviceConfigSection
  name : String
  deriving DecidableEq

/-- The assignment that is made for a field. -/
def assignedField (config : DeviceConfig) (field : Σ _ : String, Value) (_ : Nat) :
    Option (SectionName × Value) :=
  (destination config field).map fun (place, item) =>
    (⟨place, item.name.toString⟩, mapValueFromDevice item field.2)

variable {fields : List (Σ _ : String, Value)} {other : DeviceConfigSection} {key : String}
  {i : Nat}

theorem lookup_put_self (payload : ParsedDeviceConfigPayload) :
    ((payload.put place name value).ofSection place).lookup name = some value := by
  cases place <;> exact AList.lookup_insert _

theorem lookup_put_other (payload : ParsedDeviceConfigPayload)
    (hother : (⟨other, key⟩ : SectionName) ≠ ⟨place, name⟩) :
    ((payload.put place name value).ofSection other).lookup key =
      (payload.ofSection other).lookup key := by
  cases place <;> cases other <;> first
    | rfl
    | exact AList.lookup_insert_ne fun h => hother (h ▸ rfl)

/-- The sections have what the assignments, one after another, leave. -/
theorem lookup_categorized :
    ((fields.foldl (categorizeField config) {}).payload.ofSection place).lookup name =
      (assignItems (assignedField config) fields).lookup ⟨place, name⟩ := by
  induction fields using List.reverseRecOn with
  | nil => cases place <;> rfl
  | append_singleton fields field ih =>
      rw [List.foldl_append, List.foldl_cons, List.foldl_nil, assign_items_append]
      generalize fields.foldl (categorizeField config) {} = state at ih ⊢
      unfold categorizeField
      rw [assign_to_section_eq]
      cases hdestination : destination config field with
      | none =>
          rw [lookup_assign_item_other, ← ih]
          intro value hassigned
          rw [assignedField, hdestination] at hassigned
          cases hassigned
      | some found =>
          obtain ⟨foundPlace, item⟩ := found
          have hassigned : assignedField config field fields.length =
              some (⟨foundPlace, item.name.toString⟩, mapValueFromDevice item field.2) := by
            rw [assignedField, hdestination]
            rfl
          show ((state.payload.put foundPlace item.name.toString _).ofSection place).lookup name = _
          by_cases hkey : (⟨place, name⟩ : SectionName) = ⟨foundPlace, item.name.toString⟩
          · cases hkey
            rw [lookup_put_self, lookup_assign_item_self hassigned]
          · rw [lookup_put_other state.payload hkey, ih, lookup_assign_item_other]
            intro value hsame
            cases hassigned.symm.trans hsame
            exact hkey rfl

/-- The names of the fields without a destination are logged. -/
theorem dropped_names_eq :
    (fields.foldl (categorizeField config) {}).droppedNames =
      (fields.filter fun field => (destination config field).isNone).map (·.1) := by
  induction fields using List.reverseRecOn with
  | nil => rfl
  | append_singleton fields field ih =>
      rw [List.foldl_append, List.foldl_cons, List.foldl_nil, List.filter_append, List.map_append]
      generalize fields.foldl (categorizeField config) {} = state at ih ⊢
      unfold categorizeField
      rw [assign_to_section_eq, ← ih]
      cases hdestination : destination config field with
      | none => simp [hdestination]
      | some found => simp [hdestination]

theorem assigned_field_iff {target : SectionName} :
    assignedField config field i = some (target, value) ↔
      ∃ item, IsFirstMatch config field target.place item ∧
        item.name.toString = target.name ∧ mapValueFromDevice item field.2 = value := by
  obtain ⟨place, name⟩ := target
  unfold assignedField
  rw [Option.map_eq_some_iff]
  refine ⟨?_, ?_⟩
  · rintro ⟨⟨foundPlace, item⟩, hdestination, hassigned⟩
    cases hassigned
    exact ⟨item, destination_some_iff.mp hdestination, rfl, rfl⟩
  · rintro ⟨item, hfirst, rfl, rfl⟩
    exact ⟨(place, item), destination_some_iff.mpr hfirst, rfl⟩

/-! ## Values -/

theorem of_string_blank {s : String} (hblank : trim s = "") :
    Number.ofString s = .finite 0 := by
  have hchars := congrArg String.toList hblank
  rw [trim, String.toList_ofList] at hchars
  rw [Number.ofString, hchars]
  rfl

theorem map_number (hnumber : item.type = .number) :
    mapValueFromDevice item value =
      if value.toNumber = .nan then value else .number value.toNumber := by
  unfold mapValueFromDevice
  rw [if_neg (by simp [hasValues, hnumber]), if_pos hnumber]
  cases value.toNumber <;> rfl

/-- A number item gets what is expected unless the value is coerced. -/
theorem map_number_expected_iff (hnumber : item.type = .number) :
    mapValueFromDevice item value = expectedNumber value ↔ ¬ IsCoerced value := by
  rw [map_number hnumber]
  cases value with
  | undefined | object => exact iff_of_true rfl id
  | null | bool => exact iff_of_false (fun h => by cases h) fun h => h trivial
  | number n =>
      refine iff_of_true ?_ id
      show (if n = .nan then _ else _) = _
      split <;> rfl
  | array elements =>
      show (if (Value.array elements).toNumber = .nan then _ else _) = _ ↔ ¬ _ ≠ _
      split
      · rename_i hnan
        exact iff_of_true rfl fun h => h hnan
      · rename_i hnumeric
        exact iff_of_false (fun h => by cases h) fun h => h hnumeric
  | string s =>
      show (if Number.ofString s = .nan then _ else _) =
        (if trim s = "" || Number.ofString s = .nan then _ else _) ↔ ¬ trim s = ""
      by_cases hblank : trim s = ""
      · rw [of_string_blank hblank, if_neg (fun h => by cases h), if_pos (by simp [hblank])]
        exact iff_of_false (fun h => by cases h) fun h => h hblank
      · refine iff_of_true ?_ hblank
        by_cases hnan : Number.ofString s = .nan
        · rw [if_pos hnan, if_pos (by simp [hnan])]
        · rw [if_neg hnan, if_neg (by simp [hblank, hnan])]
          rfl

/-- What a matching field is expected to become is not invented. -/
theorem not_invented_of_expected (hmatch : Matches item field) :
    NotInvented item field.2 (expectedValue item field.2) := by
  have hmapped : item.type ≠ .number →
      expectedValue item field.2 = mapValueFromDevice item field.2 := fun h => if_neg h
  -- A Boolean or enum item that matches has a declared value for what is reported.
  have hdeclared : item.type = .boolean ∨ item.type = .enum →
      ∃ declared ∈ item.values.getD [], mapValueFromDevice item field.2 =
        if item.type = .boolean then
          .bool (declared.name.toList.map Char.toLower = ['t', 'r', 'u', 'e'])
        else .string declared.name := by
    intro htype
    unfold mapValueFromDevice
    rw [if_pos (by simpa [hasValues] using htype)]
    cases hfound : ((item.values.getD []).find? (matchesPath field.2)).or
        ((item.values.getD []).find? (matchesName field.2)) with
    | some declared =>
        refine ⟨declared, ?_, rfl⟩
        rcases Option.or_eq_some_iff.mp hfound with hpath | ⟨-, hname⟩
        · exact List.mem_of_find?_eq_some hpath
        · exact List.mem_of_find?_eq_some hname
    | none =>
        obtain ⟨hpath, hname⟩ := Option.or_eq_none_iff.mp hfound
        obtain ⟨declared, hmem, hvalue⟩ := hmatch.2 htype
        rcases hvalue with hvalue | hvalue
        · exact absurd (Value.strict_eq_string.mpr hvalue) (List.find?_eq_none.mp hpath _ hmem)
        · exact absurd (decide_eq_true hvalue) (List.find?_eq_none.mp hname _ hmem)
  refine ⟨fun htype => ?_, fun htype => ?_, fun htype => ?_, fun htype => ?_⟩
  · obtain ⟨declared, -, hresult⟩ := hdeclared (.inl htype)
    rw [hmapped (by rw [htype]; decide), hresult, if_pos htype]
    exact ⟨_, rfl⟩
  · obtain ⟨declared, hmem, hresult⟩ := hdeclared (.inr htype)
    rw [hmapped (by rw [htype]; decide), hresult, if_neg (by rw [htype]; decide)]
    exact ⟨declared, hmem, rfl⟩
  · rw [expectedValue, if_pos htype]
    cases hvalue : field.2 with
    | string s =>
        rw [expectedNumber]
        split
        · exact .inl rfl
        · rename_i hnumeric
          rw [Bool.or_eq_true, decide_eq_true_eq, decide_eq_true_eq, not_or] at hnumeric
          exact .inr ⟨s, _, rfl, hnumeric.1, rfl, hnumeric.2, rfl⟩
    | _ => exact .inl rfl
  · have hother : hasValues item = false ∧ item.type ≠ .number := by
      rcases htype with htype | htype <;> simp [hasValues, htype]
    rw [hmapped hother.2, mapValueFromDevice, if_neg (by simp [hother.1]), if_neg hother.2]

/-! ## The sections -/

theorem assigns_at_of_first_match (hfield : payload.entries[i]? = some field)
    (hfirst : IsFirstMatch config field place item) :
    AssignsAt (assignedField config) payload.entries i ⟨place, item.name.toString⟩
      (mapValueFromDevice item field.2) :=
  ⟨field, hfield, assigned_field_iff.mpr ⟨item, hfirst, rfl, rfl⟩⟩

theorem placed_iff :
    (∀ field ∈ payload.entries, ∀ place item, IsFirstMatch config field place item →
      ((categorizeAndMapPayloadFromDevice config payload).payload.ofSection place).lookup
        item.name.toString = some (expectedValue item field.2)) ↔ Unambiguous config payload := by
  refine ⟨fun hplaced => ⟨?_, ?_⟩, fun hunambiguous => ?_⟩
  · intro field hfield other hother place item otherItem hfirst hotherFirst hname
    have hlookup := hplaced field hfield place item hfirst
    rw [hname, hplaced other hother place otherItem hotherFirst] at hlookup
    exact (Option.some.inj hlookup).symm
  · intro i field place item hfield hfirst hnumber hlast
    have hlookup := hplaced field (List.mem_of_getElem? hfield) place item hfirst
    have hmapped := lookup_assign_items.mpr ⟨i, assigns_at_of_first_match hfield hfirst, by
      rintro j value hj ⟨other, hother, hassigned⟩
      obtain ⟨otherItem, hotherFirst, hname, -⟩ := assigned_field_iff.mp hassigned
      exact hlast j other otherItem hj hother hotherFirst hname⟩
    rw [← lookup_categorized] at hmapped
    have hsame := Option.some.inj (hmapped.symm.trans hlookup)
    rw [expectedValue, if_pos hnumber] at hsame
    exact (map_number_expected_iff hnumber).mp hsame
  · intro field hfield place item hfirst
    obtain ⟨i, hi⟩ := List.getElem?_of_mem hfield
    obtain ⟨value, hvalue⟩ := exists_lookup_assign_items (assigns_at_of_first_match hi hfirst)
    obtain ⟨j, ⟨other, hother, hassigned⟩, hlast⟩ := lookup_assign_items.mp hvalue
    obtain ⟨otherItem, hotherFirst, hname, hmapped⟩ := assigned_field_iff.mp hassigned
    have hexpected : mapValueFromDevice otherItem other.2 = expectedValue otherItem other.2 := by
      unfold expectedValue
      split
      · rename_i hnumber
        refine (map_number_expected_iff hnumber).mpr ?_
        refine hunambiguous.notCoerced j other place otherItem hother hotherFirst hnumber ?_
        intro k later laterItem hk hlater hlaterFirst hlaterName
        refine hlast k _ hk ⟨later, hlater, assigned_field_iff.mpr
          ⟨laterItem, hlaterFirst, hlaterName.trans hname, rfl⟩⟩
      · rfl
    have hsame := hunambiguous.sameValues other (List.mem_of_getElem? hother) field hfield place
      otherItem item hotherFirst hfirst hname
    show ((payload.entries.foldl (categorizeField config) {}).payload.ofSection place).lookup _ = _
    rw [lookup_categorized, hvalue, ← hmapped, hexpected, hsame]

/-- A payload is categorized as expected exactly if it is unambiguous. -/
theorem categorizes_iff (config : DeviceConfig) (payload : DevicePayload) :
    Categorizes config payload ↔ Unambiguous config payload := by
  refine ⟨fun h => placed_iff.mp h.placed, fun h => ?_⟩
  have hplaced := placed_iff.mpr h
  refine ⟨hplaced, fun field hfield => ?_, fun place name value hlookup => ?_⟩
  · rw [categorizeAndMapPayloadFromDevice, dropped_names_eq, List.mem_map, ← destination_none_iff]
    refine ⟨?_, fun hnone => ⟨field, List.mem_filter.mpr ⟨hfield, ?_⟩, rfl⟩⟩
    · rintro ⟨other, hother, hname⟩
      obtain ⟨hmem, hnone⟩ := List.mem_filter.mp hother
      cases payload.nodupKeys.eq_of_fst_eq hmem hfield hname
      exact Option.isNone_iff_eq_none.mp hnone
    · rw [hnone]
      rfl
  · have hassigned := hlookup
    rw [categorizeAndMapPayloadFromDevice, lookup_categorized] at hassigned
    obtain ⟨i, ⟨field, hfield, hassigned⟩, -⟩ := lookup_assign_items.mp hassigned
    obtain ⟨item, hfirst, rfl, -⟩ := assigned_field_iff.mp hassigned
    have hmem := List.mem_of_getElem? hfield
    refine ⟨field, hmem, item, hfirst, rfl, ?_⟩
    rw [hplaced field hmem place item hfirst] at hlookup
    exact Option.some.inj hlookup ▸ not_invented_of_expected hfirst.isMatch

/-- The battery level of a device that reports under the same name. -/
def batteryItem : DeviceConfigItem :=
  { label := .string "Battery", name := .string "battery", type := .number }

/-- A sensor with a battery. -/
def batteryConfig : DeviceConfig :=
  { brand := .shelly
    type := .motionSensor
    transportProtocol := .zigbee
    measurements := some [batteryItem] }

/-- The sensor reports that it does not know the level. -/
def unknownBattery : DevicePayload :=
  AList.singleton "battery" .null

/-- An unknown level is passed on as zero. -/
theorem unknown_level_becomes_zero : ¬ Categorizes batteryConfig unknownBattery := by
  intro h
  have hfirst : IsFirstMatch batteryConfig ⟨"battery", .null⟩ .measurements batteryItem :=
    destination_some_iff.mp (by decide)
  have hplaced := h.placed ⟨"battery", .null⟩ (List.mem_singleton_self _) _ _ hfirst
  have hzero : ((categorizeAndMapPayloadFromDevice batteryConfig unknownBattery).payload.ofSection
      .measurements).lookup "battery" = some (.number (.finite 0)) := by
    decide
  cases hzero.symm.trans hplaced

end MyHomeHub.Mapper
