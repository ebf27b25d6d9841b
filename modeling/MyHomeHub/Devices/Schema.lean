import MyHomeHub.Common.Errors
import MyHomeHub.Devices.Interfaces
import MyHomeHub.JavaScript.RegExp
import MyHomeHub.Library.Collection

/-!
# The device schema

`device.schema` and `device.validators`: the rules a device document has to satisfy when
it is saved, its unique indexes, and what a save writes. A save writes the fields that
changed since the document was loaded and no others, so it leaves what another call has
written to the other fields in the meantime.
-/

namespace MyHomeHub.DeviceSchema

open JavaScript JavaScript.RegExp Library

/-- `isTuyaDevice` -/
def isTuyaDevice (device : Device) : Bool :=
  device.brand = .value .tuya

/-- `isZigbeeDevice` -/
def isZigbeeDevice (device : Device) : Bool :=
  device.transportProtocol = .value .zigbee

/-- `isDirectModified`: a field of a new document counts as modified when it is set. -/
def isDirectModified (original : Option Device) (device : Device)
    (field : Device → Optional String) : Bool :=
  match original with
  | none => field device ≠ .undefined
  | some original => field original ≠ field device

/-- `dropScopedDependencyFields`: fields of another brand or protocol are removed unless they were
written explicitly. -/
def dropScopedDependencyFields (original : Option Device) (device : Device) : Device :=
  let keep (isApplied : Bool) (field : Device → Optional String) : Optional String :=
    if !isApplied && !isDirectModified original device field then .undefined else field device
  { device with
    tuyaDeviceId := keep (isTuyaDevice device) (·.tuyaDeviceId)
    tuyaDeviceLocalKey := keep (isTuyaDevice device) (·.tuyaDeviceLocalKey)
    zigbeeIeeeAddress := keep (isZigbeeDevice device) (·.zigbeeIeeeAddress)
    zigbeeFriendlyName := keep (isZigbeeDevice device) (·.zigbeeFriendlyName) }

/-- `/^\d{1,3}\.\d{1,3}\.\d{1,3}\.\d{1,3}$/` -/
def ipPattern : Pattern :=
  let group := digit * (1 + digit) * (1 + digit)
  group * literal ['.'] * group * literal ['.'] * group * literal ['.'] * group

/-- `ZIGBEE_IEEE_ADDRESS_REGEX`: `/^0x[0-9a-fA-F]{16}$/` -/
def isIeeeAddress (value : String) : Bool :=
  match value.toList with
  | '0' :: 'x' :: digits =>
      digits.length = 16 && digits.all fun c =>
        c.isDigit || ('a' ≤ c && c ≤ 'f') || ('A' ≤ c && c ≤ 'F')
  | _ => false

/-- A required text within its length bounds. -/
def isRequiredText (minLength maxLength : Nat) : Optional String → Bool
  | .value s => minLength ≤ utf16Length s && utf16Length s ≤ maxLength && s ≠ ""
  | _ => false

/-- A text that has to be set when a condition holds and may be set only then. -/
def isConditionalText (condition : Bool) (accepts : String → Bool) : Optional String → Bool
  | .undefined => !condition
  | .null => false
  | .value s => condition && s ≠ "" && accepts s

/-- The paths of the fields that break a rule of the schema. -/
def invalidPaths (device : Device) : List String :=
  [("name", isRequiredText 3 40 device.name),
    ("type", device.type.toOption.isSome),
    ("transportProtocol", device.transportProtocol.toOption.isSome),
    ("ip", match device.ip with
      | .undefined => true
      | .null => false
      | .value ip => test ipPattern ip),
    ("tuyaDeviceId", isConditionalText (isTuyaDevice device) (fun _ => true)
      device.tuyaDeviceId),
    ("tuyaDeviceLocalKey", isConditionalText (isTuyaDevice device) (fun _ => true)
      device.tuyaDeviceLocalKey),
    ("zigbeeFriendlyName", isConditionalText device.zigbeeIeeeAddress.isNonEmpty
      (fun name => 3 ≤ utf16Length name && utf16Length name ≤ 60) device.zigbeeFriendlyName),
    ("zigbeeIeeeAddress", isConditionalText (isZigbeeDevice device) isIeeeAddress
      device.zigbeeIeeeAddress),
    ("updateInterval", match device.updateInterval with
      | .value n => (Number.finite 0).lt n || n.strictEq (.finite 0)
      | _ => true)].filterMap fun (path, valid) => if valid then none else some path

/-! ## The collection -/

/-- The index on `externalId`. -/
def externalIdKey (device : Device) : Option (Optional String) :=
  some (.value device.externalId)

/-- The unique indexes: `externalId`, `name` and the sparse `zigbeeFriendlyName`. -/
def deviceIndexes : List (Device → Option (Optional String)) :=
  [externalIdKey, fun device => some device.name,
    fun device => if device.zigbeeFriendlyName = .undefined then none
      else some device.zigbeeFriendlyName]

/-- The stored devices. -/
abbrev DeviceStore := Collection Device (Optional String) deviceIndexes

/-- `findOne({ externalId })` -/
def findByExternalId (devices : DeviceStore) (externalId : String) : Option Device :=
  devices.docs.find? fun device => device.externalId = externalId

/-- A payload after a save. -/
def writtenPayload (loaded saved stored : DevicePayload) : DevicePayload :=
  if Object.sameFields saved loaded then stored else saved

/-- The stored document after a save: only the fields modified since it was loaded are written. -/
def writeModified (loaded saved stored : Device) : Device where
  externalId := stored.externalId
  name := writtenField loaded.name saved.name stored.name
  type := writtenField loaded.type saved.type stored.type
  brand := writtenField loaded.brand saved.brand stored.brand
  room := writtenField loaded.room saved.room stored.room
  transportProtocol :=
    writtenField loaded.transportProtocol saved.transportProtocol stored.transportProtocol
  ip := writtenField loaded.ip saved.ip stored.ip
  tuyaDeviceId := writtenField loaded.tuyaDeviceId saved.tuyaDeviceId stored.tuyaDeviceId
  tuyaDeviceLocalKey :=
    writtenField loaded.tuyaDeviceLocalKey saved.tuyaDeviceLocalKey stored.tuyaDeviceLocalKey
  zigbeeFriendlyName :=
    writtenField loaded.zigbeeFriendlyName saved.zigbeeFriendlyName stored.zigbeeFriendlyName
  zigbeeIeeeAddress :=
    writtenField loaded.zigbeeIeeeAddress saved.zigbeeIeeeAddress stored.zigbeeIeeeAddress
  updateInterval :=
    writtenField loaded.updateInterval saved.updateInterval stored.updateInterval
  controls := writtenPayload loaded.controls saved.controls stored.controls
  measurements := writtenPayload loaded.measurements saved.measurements stored.measurements

/-- `save` of a new document: the stored devices and the saved document. -/
def saveNew (devices : DeviceStore) (device : Device) :
    Except HubError (DeviceStore × Device) :=
  let device := dropScopedDependencyFields none device
  match invalidPaths device with
  | [] =>
      match devices.insert? device with
      | some devices => .ok (devices, device)
      | none => .error .duplicateKey
  | paths => .error (.documentValidation paths)

/-- `save` of a loaded document: the stored devices and the document in memory. -/
def save (devices : DeviceStore) (loaded device : Device) :
    Except HubError (DeviceStore × Device) :=
  let device := dropScopedDependencyFields (some loaded) device
  match invalidPaths device with
  | [] =>
      match devices.updateFirst (fun stored => externalIdKey stored = externalIdKey loaded)
          (writeModified loaded device) with
      | .ok devices => .ok (devices, device)
      | .error .noDocument => .error .documentNotFound
      | .error .duplicateKey => .error .duplicateKey
  | paths => .error (.documentValidation paths)

/-! ## What a save does -/

section

variable {devices devices' : DeviceStore} {loaded device saved : Device}

@[simp] theorem drop_config_key (original : Option Device) (device : Device) :
    (dropScopedDependencyFields original device).configKey = device.configKey := rfl
@[simp] theorem drop_controls (original : Option Device) (device : Device) :
    (dropScopedDependencyFields original device).controls = device.controls := rfl
@[simp] theorem drop_measurements (original : Option Device) (device : Device) :
    (dropScopedDependencyFields original device).measurements = device.measurements := rfl
@[simp] theorem drop_external_id (original : Option Device) (device : Device) :
    (dropScopedDependencyFields original device).externalId = device.externalId := rfl

/-- A document that obeys the schema has a Zigbee name only together with an address, and an address
exactly when it is a Zigbee device. -/
theorem zigbee_rules_of_valid (h : invalidPaths device = []) :
    isConditionalText device.zigbeeIeeeAddress.isNonEmpty
        (fun name => 3 ≤ utf16Length name && utf16Length name ≤ 60)
          device.zigbeeFriendlyName = true ∧
      isConditionalText (isZigbeeDevice device) isIeeeAddress device.zigbeeIeeeAddress = true := by
  rw [invalidPaths, List.filterMap_eq_nil_iff] at h
  have hrule (path : String) (valid : Bool)
      (hnone : (if valid = true then none else some path) = none) : valid = true := by
    by_contra hfails
    rw [if_neg hfails] at hnone
    cases hnone
  constructor
  · exact hrule "zigbeeFriendlyName" _ (h ("zigbeeFriendlyName", _) (by simp))
  · exact hrule "zigbeeIeeeAddress" _ (h ("zigbeeIeeeAddress", _) (by simp))

theorem external_id_key_mem : externalIdKey ∈ deviceIndexes :=
  List.mem_cons_self

theorem external_id_key_eq {device : Device} {externalId : String} :
    externalIdKey device = some (.value externalId) ↔ device.externalId = externalId := by
  simp [externalIdKey]

/-- A stored device is found by its external id. -/
theorem find_by_external_id_iff {externalId : String} :
    findByExternalId devices externalId = some device ↔
      device ∈ devices ∧ device.externalId = externalId := by
  have hfind : devices.docs.find? (fun device => externalIdKey device = some (.value externalId)) =
      some device ↔ _ := Collection.find_iff external_id_key_mem
  simpa only [findByExternalId, external_id_key_eq] using hfind

/-- A payload that nobody else wrote is saved as it is in memory, up to the order of its
entries. -/
theorem written_payload_same (loaded saved : DevicePayload) :
    Object.SameFields (writtenPayload loaded saved loaded) saved := by
  rw [writtenPayload]
  split
  · rename_i h
    exact (Object.same_fields_iff.mp h).symm
  · exact fun _ => rfl

/-- A save writes what was modified since the document was loaded over the stored document, and the
other documents are unchanged. -/
theorem save_over_stored {stored : Device}
    (hstored : findByExternalId devices loaded.externalId = some stored)
    (h : save devices loaded device = .ok (devices', saved)) :
    saved = dropScopedDependencyFields (some loaded) device ∧ invalidPaths saved = [] ∧
      ∀ other, other ∈ devices' ↔ other = writeModified loaded saved stored ∨
        (other ∈ devices ∧ other.externalId ≠ loaded.externalId) := by
  obtain ⟨hmem, hid⟩ := find_by_external_id_iff.mp hstored
  rw [save] at h
  split at h
  · rename_i hpaths
    split at h
    · rename_i updated hupdate
      cases h
      refine ⟨rfl, hpaths, fun other => ?_⟩
      rw [Collection.mem_of_update_stored external_id_key_mem hmem (external_id_key_eq.mpr hid)
        hupdate, ne_eq, ne_eq, external_id_key_eq]
    · cases h
    · cases h
  · cases h

/-- A save of a document that nobody else wrote since it was loaded: the stored document is the one
in memory, and the other documents are unchanged. -/
theorem save_ok (hloaded : loaded ∈ devices)
    (h : save devices loaded device = .ok (devices', saved)) :
    saved = dropScopedDependencyFields (some loaded) device ∧ invalidPaths saved = [] ∧
      ∀ other, other ∈ devices' ↔ other = writeModified loaded saved loaded ∨
        (other ∈ devices ∧ other.externalId ≠ loaded.externalId) :=
  save_over_stored (find_by_external_id_iff.mpr ⟨hloaded, rfl⟩) h

/-- The saved document is the one that is found afterwards. -/
theorem find_after_save (hloaded : loaded ∈ devices)
    (h : save devices loaded device = .ok (devices', saved)) :
    findByExternalId devices' loaded.externalId = some (writeModified loaded saved loaded) := by
  obtain ⟨-, -, hmem⟩ := save_ok hloaded h
  exact find_by_external_id_iff.mpr ⟨(hmem _).mpr (.inl rfl), rfl⟩

/-- A new document is stored as it is in memory, and the other documents are unchanged. -/
theorem save_new_ok (h : saveNew devices device = .ok (devices', saved)) :
    saved = dropScopedDependencyFields none device ∧ invalidPaths saved = [] ∧
      ∀ other, other ∈ devices' ↔ other ∈ devices ∨ other = saved := by
  rw [saveNew] at h
  split at h
  · rename_i hpaths
    split at h
    · rename_i inserted hinsert
      cases h
      exact ⟨rfl, hpaths, fun other => Collection.mem_of_insert hinsert⟩
    · cases h
  · cases h

/-- A document can be stored in the place of a loaded one: it obeys the schema, and no other device
has its name or its Zigbee name. -/
structure Storable (devices : DeviceStore) (loaded document : Device) : Prop where
  valid : invalidPaths document = []
  name : ∀ other ∈ devices, other.externalId ≠ loaded.externalId → document.name ≠ other.name
  zigbeeFriendlyName : ∀ other ∈ devices, other.externalId ≠ loaded.externalId →
    document.zigbeeFriendlyName = .undefined ∨
      document.zigbeeFriendlyName ≠ other.zigbeeFriendlyName

/-- The indexes tell two devices apart when their external ids, names and Zigbee names do. -/
theorem keys_differ_iff {a b : Device} : KeysDiffer deviceIndexes a b ↔
    a.externalId ≠ b.externalId ∧ a.name ≠ b.name ∧
      (a.zigbeeFriendlyName = .undefined ∨ a.zigbeeFriendlyName ≠ b.zigbeeFriendlyName) := by
  have hsparse : ((if a.zigbeeFriendlyName = .undefined then none
      else some a.zigbeeFriendlyName) = none ∨
      (if a.zigbeeFriendlyName = .undefined then none else some a.zigbeeFriendlyName) ≠
        if b.zigbeeFriendlyName = .undefined then none else some b.zigbeeFriendlyName) ↔
      (a.zigbeeFriendlyName = .undefined ∨ a.zigbeeFriendlyName ≠ b.zigbeeFriendlyName) := by
    by_cases ha : a.zigbeeFriendlyName = .undefined
    · simp [ha]
    · by_cases hb : b.zigbeeFriendlyName = .undefined
      · simp [ha, hb]
      · simp [ha, hb]
  simp only [KeysDiffer, deviceIndexes, List.forall_mem_cons, hsparse]
  simp [externalIdKey]

/-- A save succeeds when the document can be stored. -/
theorem save_ok_iff (hloaded : loaded ∈ devices) :
    (∃ result, save devices loaded device = .ok result) ↔
      Storable devices loaded (dropScopedDependencyFields (some loaded) device) := by
  refine ⟨fun ⟨(devices', saved), h⟩ => ?_, fun hstorable => ?_⟩
  · obtain ⟨rfl, hvalid, hmem⟩ := save_ok hloaded h
    have hwritten := (hmem _).mpr (.inl rfl)
    have hdiffer (other : Device) (hother : other ∈ devices)
        (hne : other.externalId ≠ loaded.externalId) :
        KeysDiffer deviceIndexes
          (writeModified loaded (dropScopedDependencyFields (some loaded) device) loaded) other :=
      Collection.keys_differ_of_other hwritten ((hmem other).mpr (.inr ⟨hother, hne⟩))
        (external_id_key_eq.mpr rfl) (fun hsame => hne (external_id_key_eq.mp hsame))
    simp only [keys_differ_iff, writeModified, written_field_same] at hdiffer
    exact ⟨hvalid, fun other hother hne => (hdiffer other hother hne).2.1,
      fun other hother hne => (hdiffer other hother hne).2.2⟩
  · obtain ⟨updated, hupdate⟩ := Collection.update_first_some external_id_key_mem
      hloaded (external_id_key_eq.mpr rfl) (f := writeModified loaded
        (dropScopedDependencyFields (some loaded) device)) fun other hother hne => by
      have hid : other.externalId ≠ loaded.externalId :=
        fun hsame => hne (external_id_key_eq.mpr hsame)
      rw [keys_differ_iff]
      simp only [writeModified, written_field_same]
      exact ⟨hid.symm, hstorable.name other hother hid,
        hstorable.zigbeeFriendlyName other hother hid⟩
    refine ⟨(updated, dropScopedDependencyFields (some loaded) device), ?_⟩
    have hkey : externalIdKey loaded = some (.value loaded.externalId) := rfl
    rw [save, hstorable.valid]
    simp only [hkey, hupdate]

/-- A document that was written in one piece has the config key and the payloads it has in
memory. -/
theorem write_modified_same (loaded saved : Device) :
    (writeModified loaded saved loaded).configKey = saved.configKey ∧
      Object.SameFields (writeModified loaded saved loaded).controls saved.controls ∧
      Object.SameFields (writeModified loaded saved loaded).measurements saved.measurements := by
  refine ⟨?_, written_payload_same _ _, written_payload_same _ _⟩
  simp only [Device.configKey, writeModified, written_field_same]

end

end MyHomeHub.DeviceSchema
