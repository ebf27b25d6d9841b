import MyHomeHub.DeviceConfigs.Categorizing

/-!
# Fields that take the place of others

`mapPayloadFromDevice` renames the fields that a config declares and passes on the others under
their own names, into one object. A field that no item matches can have the internal name of
an item: it then takes the place of the field that the item translates, or loses its own to it.
-/

namespace MyHomeHub.Mapper

open JavaScript

/-- `config?.[section] ?? []` -/
def sectionItems (config : Option DeviceConfig) (place : DeviceConfigSection) :
    List DeviceConfigItem :=
  (config.bind (·.items place)).getD []

/-- Every reported field has an entry of its own in the result, in whatever order the fields are
reported. -/
structure KeepsFields (config : Option DeviceConfig) (place : DeviceConfigSection)
    (payload : DevicePayload) : Prop where
  kept : ∀ field ∈ payload.entries,
    (mapPayloadFromDevice config place payload).lookup
        (mapEntryFromDevice (sectionItems config place) field).1 =
      some (mapEntryFromDevice (sectionItems config place) field).2
  count : (mapPayloadFromDevice config place payload).entries.length = payload.entries.length
  order : ∀ reordered : DevicePayload, reordered.entries.Perm payload.entries →
    Object.SameFields (mapPayloadFromDevice config place reordered)
      (mapPayloadFromDevice config place payload)

/-- A field without an item does not have the name of the item of a reported field. -/
def NoNameTaken (items : List DeviceConfigItem) (payload : DevicePayload) : Prop :=
  ∀ field ∈ payload.entries, findConfigItem items field.1 field.2 = none →
    ∀ other ∈ payload.entries, ∀ item, findConfigItem items other.1 other.2 = some item →
      item.name.toString ≠ field.1

variable {config : Option DeviceConfig} {place : DeviceConfigSection}
  {items : List DeviceConfigItem} {payload : DevicePayload}
  {field other : Σ _ : String, Value} {item : DeviceConfigItem}

theorem map_entry_of_item (hitem : findConfigItem items field.1 field.2 = some item) :
    mapEntryFromDevice items field = ⟨item.name.toString, mapValueFromDevice item field.2⟩ := by
  rw [mapEntryFromDevice, hitem]

theorem map_entry_of_no_item (hnone : findConfigItem items field.1 field.2 = none) :
    mapEntryFromDevice items field = field := by
  rw [mapEntryFromDevice, hnone]

/-- The names of an object are different. -/
theorem nodup_entries (payload : DevicePayload) : payload.entries.Nodup :=
  List.Nodup.of_map Sigma.fst payload.nodupKeys

/-- Items with different names keep two fields apart, since an item translates one field only. -/
theorem eq_of_item_names_eq (hnames : (items.map (·.name.toString)).Nodup)
    (hfield : field ∈ payload.entries) (hother : other ∈ payload.entries)
    {otherItem : DeviceConfigItem} (hitem : findConfigItem items field.1 field.2 = some item)
    (hotherItem : findConfigItem items other.1 other.2 = some otherItem)
    (hname : item.name.toString = otherItem.name.toString) : field = other := by
  have hsame : item = otherItem :=
    List.inj_on_of_nodup_map hnames (List.mem_of_find?_eq_some hitem)
      (List.mem_of_find?_eq_some hotherItem) hname
  have hdevice := (find_config_item_some_iff.mp hitem).1.1
  have hotherDevice := (find_config_item_some_iff.mp hotherItem).1.1
  rw [← hsame, hdevice] at hotherDevice
  exact payload.nodupKeys.eq_of_fst_eq hfield hother (Value.string.inj hotherDevice)

/-- The names in the result are different exactly if no field takes the name of another. -/
theorem mapped_names_nodup_iff (hnames : (items.map (·.name.toString)).Nodup) :
    ((payload.entries.map (mapEntryFromDevice items)).map (·.1)).Nodup ↔
      NoNameTaken items payload := by
  rw [List.map_map]
  refine ⟨fun hnodup field hfield hnone other hother item hitem hname => ?_, fun hfree => ?_⟩
  · have hsame : field = other := by
      refine List.inj_on_of_nodup_map hnodup hfield hother ?_
      show (mapEntryFromDevice items field).1 = (mapEntryFromDevice items other).1
      rw [map_entry_of_no_item hnone, map_entry_of_item hitem, hname]
    subst hsame
    cases hnone.symm.trans hitem
  · refine (nodup_entries payload).map_on fun field hfield other hother hname => ?_
    replace hname : (mapEntryFromDevice items field).1 = (mapEntryFromDevice items other).1 := hname
    cases hitem : findConfigItem items field.1 field.2 with
    | none =>
        rw [map_entry_of_no_item hitem] at hname
        cases hotherItem : findConfigItem items other.1 other.2 with
        | none =>
            rw [map_entry_of_no_item hotherItem] at hname
            exact payload.nodupKeys.eq_of_fst_eq hfield hother hname
        | some otherItem =>
            rw [map_entry_of_item hotherItem] at hname
            exact absurd hname.symm (hfree field hfield hitem other hother otherItem hotherItem)
    | some item =>
        rw [map_entry_of_item hitem] at hname
        cases hotherItem : findConfigItem items other.1 other.2 with
        | none =>
            rw [map_entry_of_no_item hotherItem] at hname
            exact absurd hname (hfree other hother hotherItem field hfield item hitem)
        | some otherItem =>
            rw [map_entry_of_item hotherItem] at hname
            exact eq_of_item_names_eq hnames hfield hother hitem hotherItem hname

/-! ## The result -/

theorem map_entry_nil : mapEntryFromDevice [] = id := rfl

/-- Without items the fields are passed on as they are, too. -/
theorem map_payload_cases (config : Option DeviceConfig) (place : DeviceConfigSection)
    (payload : DevicePayload) :
    mapPayloadFromDevice config place payload =
        .ofAssignments (payload.entries.map (mapEntryFromDevice (sectionItems config place))) ∨
      mapPayloadFromDevice config place payload = payload ∧
        payload.entries.map (mapEntryFromDevice (sectionItems config place)) =
          payload.entries := by
  show (if (sectionItems config place).isEmpty then payload else _) = _ ∨
    (if (sectionItems config place).isEmpty then payload else _) = _ ∧ _
  split
  · rename_i hempty
    rw [List.isEmpty_iff.mp hempty, map_entry_nil, List.map_id]
    exact .inr ⟨rfl, rfl⟩
  · exact .inl rfl

/-- There are as many entries as reported fields exactly if their names are different. -/
theorem length_map_payload_iff :
    (mapPayloadFromDevice config place payload).entries.length = payload.entries.length ↔
      ((payload.entries.map (mapEntryFromDevice (sectionItems config place))).map (·.1)).Nodup := by
  rcases map_payload_cases config place payload with hmapped | ⟨hmapped, hentries⟩
  · rw [hmapped, ← Object.length_of_assignments_iff, List.length_map]
  · rw [hmapped, hentries]
    exact iff_of_true rfl payload.nodupKeys

/-- With different names the result has the translated fields. -/
theorem lookup_map_payload {name : String} {value : Value}
    (hnodup :
      ((payload.entries.map (mapEntryFromDevice (sectionItems config place))).map (·.1)).Nodup) :
    (mapPayloadFromDevice config place payload).lookup name = some value ↔
      ⟨name, value⟩ ∈ payload.entries.map (mapEntryFromDevice (sectionItems config place)) := by
  rcases map_payload_cases config place payload with hmapped | ⟨hmapped, hentries⟩
  · rw [hmapped]
    refine Object.lookup_of_assignments fun a b ha hb => ?_
    cases List.inj_on_of_nodup_map hnodup ha hb rfl
    rfl
  · rw [hmapped, hentries]
    exact AList.mem_lookup_iff

/-- With different item names a payload keeps its fields exactly if no field has the name of the
item of another. -/
theorem keeps_fields_iff (config : Option DeviceConfig) (place : DeviceConfigSection)
    (payload : DevicePayload)
    (hnames : ((sectionItems config place).map (·.name.toString)).Nodup) :
    KeepsFields config place payload ↔ NoNameTaken (sectionItems config place) payload := by
  rw [← mapped_names_nodup_iff hnames]
  refine ⟨fun hkeeps => length_map_payload_iff.mp hkeeps.count, fun hnodup => ?_⟩
  refine ⟨fun field hfield => ?_, length_map_payload_iff.mpr hnodup, fun reordered hperm name => ?_⟩
  · exact (lookup_map_payload hnodup).mpr (List.mem_map_of_mem hfield)
  · have hmapped := hperm.map (mapEntryFromDevice (sectionItems config place))
    have hreordered := ((hmapped.map (·.1)).nodup_iff).mpr hnodup
    ext value
    rw [lookup_map_payload hreordered, lookup_map_payload hnodup, hmapped.mem_iff]

/-- A lamp that reports its brightness as `bri`. -/
def lampConfig : DeviceConfig :=
  { brand := .shelly
    type := .led
    transportProtocol := .zigbee
    controls := some [{ label := .string "Brightness", name := .string "brightness"
                        type := .number, path := .string "bri" }] }

/-- The lamp also reports a field that the config does not declare. -/
def twoBrightnesses : DevicePayload :=
  .ofAssignments [⟨"bri", .number (.finite 40)⟩, ⟨"brightness", .number (.finite 10)⟩]

/-- The undeclared field takes the place of the declared one. -/
theorem brightness_overwritten :
    ((sectionItems (some lampConfig) .controls).map (·.name.toString)).Nodup ∧
      ((sectionItems (some lampConfig) .controls).map (·.deviceName)).Nodup ∧
        ¬ KeepsFields (some lampConfig) .controls twoBrightnesses := by
  refine ⟨by decide, by decide, fun h => ?_⟩
  have hcount : (mapPayloadFromDevice (some lampConfig) .controls twoBrightnesses).entries.length =
      1 := by
    decide
  exact absurd (hcount.symm.trans h.count) (by decide)

/-- The lamp reports an undeclared colour. -/
def brightnessAndColour : DevicePayload :=
  .ofAssignments [⟨"bri", .number (.finite 40)⟩, ⟨"colour", .string "red"⟩]

theorem keeps_fields_iff_colour :
    KeepsFields (some lampConfig) .controls brightnessAndColour ↔
      NoNameTaken (sectionItems (some lampConfig) .controls) brightnessAndColour :=
  keeps_fields_iff (some lampConfig) .controls brightnessAndColour (by decide)

end MyHomeHub.Mapper
