import MyHomeHub.Devices.Schema
import MyHomeHub.DeviceConfigs.Validator
import MyHomeHub.Library.DocumentPath

/-!
# Reconciling devices with their configs

`onDeviceConfigsChanged` of `devices.service`: after a sync of the device configs, the
stored payloads get the defaults of newly declared items and lose the entries that are no
longer declared. The names of items and entries become dotted paths of one update
operation for each device, so a name that holds a dot leads into another entry.

Which paths the database accepts is left open: `acceptsPath` can refuse any of them.
-/

namespace MyHomeHub.DevicesService

open JavaScript ConfigsValidator DeviceSchema Library.DocumentPath

/-- `DEVICE_CONFIG_PAYLOADS_SECTIONS` -/
def payloadsSections : List DeviceConfigSection :=
  [.controls, .measurements]

/-- `device[section]`. A device stores no commands. -/
def payloadOf (device : Device) : DeviceConfigSection → DevicePayload
  | .controls => device.controls
  | .measurements => device.measurements
  | .commands => ∅

/-- The fields of one section in the operation for a device. -/
structure SectionOperation where
  setFields : Object Value
  unsetFields : List String

/-- The loop body of `buildPayloadsReconcileOperation`: a section without items is left
untouched. -/
def sectionOperation (configItems : List DeviceConfigItem) (storedPayload : DevicePayload) :
    SectionOperation :=
  if configItems.isEmpty then ⟨∅, []⟩
  else
    { setFields := .ofAssignments
        ((configItems.filter fun item => !storedPayload.hasProperty item.name.toString).map
          fun item => ⟨item.name.toString, getItemDefaultValue item⟩)
      unsetFields := storedPayload.keys.filter fun name =>
        !configItems.any fun item => item.name.strictEq (.string name) }

/-- The updates of the entries of one section. -/
def SectionOperation.updates (operation : SectionOperation) : List FieldUpdate :=
  operation.setFields.entries.map (fun entry => ⟨components entry.1, some entry.2⟩) ++
    operation.unsetFields.map fun name => ⟨components name, none⟩

/-- The updates that `buildPayloadsReconcileOperation` puts into the operation for a device. The
paths of different sections never meet. -/
def reconcileUpdates (config : DeviceConfig) (device : Device)
    (payloadSection : DeviceConfigSection) : List FieldUpdate :=
  (sectionOperation ((config.items payloadSection).getD [])
    (payloadOf device payloadSection)).updates

/-- The document after its operation, or none when the database refuses the operation. A device
without updates has no operation. -/
def reconcileDevice (acceptsPath : List String → Bool) (config : DeviceConfig)
    (device : Device) : Option Device :=
  if Acceptable acceptsPath (reconcileUpdates config device .controls) ∧
      Acceptable acceptsPath (reconcileUpdates config device .measurements) then do
    let controls ← applyAll (reconcileUpdates config device .controls) device.controls
    let measurements ← applyAll (reconcileUpdates config device .measurements) device.measurements
    return { device with controls := controls, measurements := measurements }
  else none

theorem reconcile_device_fields {acceptsPath : List String → Bool} {config : DeviceConfig}
    {device reconciled : Device}
    (h : reconcileDevice acceptsPath config device = some reconciled) :
    applyAll (reconcileUpdates config device .controls) device.controls =
        some reconciled.controls ∧
      applyAll (reconcileUpdates config device .measurements) device.measurements =
        some reconciled.measurements ∧
      reconciled =
        { device with
          controls := reconciled.controls
          measurements := reconciled.measurements } := by
  unfold reconcileDevice at h
  split at h
  · obtain ⟨controls, hcontrols, h⟩ := Option.bind_eq_some_iff.mp h
    obtain ⟨measurements, hmeasurements, h⟩ := Option.bind_eq_some_iff.mp h
    cases h
    exact ⟨hcontrols, hmeasurements, rfl⟩
  · cases h

/-- A device after the operations of the written ones. -/
def reconcileWritten (acceptsPath : List String → Bool) (config : DeviceConfig)
    (written : List Device) (device : Device) : Device :=
  if (written.map (·.externalId)).contains device.externalId then
    (reconcileDevice acceptsPath config device).getD device
  else device

theorem reconcile_written_keys (acceptsPath : List String → Bool) (config : DeviceConfig)
    (written : List Device) (device : Device) :
    ∀ index ∈ deviceIndexes,
      index (reconcileWritten acceptsPath config written device) = index device := by
  intro index hindex
  unfold reconcileWritten
  split
  · cases h : reconcileDevice acceptsPath config device with
    | none => rfl
    | some reconciled =>
        obtain ⟨-, -, hsame⟩ := reconcile_device_fields h
        rw [Option.getD_some, hsame]
        simp only [deviceIndexes, List.mem_cons, List.not_mem_nil, or_false] at hindex
        rcases hindex with rfl | rfl | rfl <;> rfl
  · rfl

/-- `reconcileDevicePayloads`: the operations are carried out in order until one is refused. -/
def reconcileDevicePayloads (acceptsPath : List String → Bool) (config : DeviceConfig)
    (devices : DeviceStore) : DeviceStore :=
  let found := devices.docs.filter fun device => device.configKey = config.key
  let written := found.takeWhile fun device => (reconcileDevice acceptsPath config device).isSome
  devices.mapDocs (reconcileWritten acceptsPath config written)
    (reconcile_written_keys acceptsPath config written)

/-- Every device is reconciled or left as it is. -/
theorem mem_reconcile_device_payloads {acceptsPath : List String → Bool} {config : DeviceConfig}
    {devices : DeviceStore} {device : Device}
    (h : device ∈ reconcileDevicePayloads acceptsPath config devices) :
    ∃ old ∈ devices, device = old ∨
      (old.configKey = config.key ∧
        device = (reconcileDevice acceptsPath config old).getD old) := by
  obtain ⟨old, hold, rfl⟩ := (Library.Collection.mem_map_docs
    (reconcile_written_keys acceptsPath config _)).mp h
  refine ⟨old, hold, ?_⟩
  unfold reconcileWritten
  split
  · rename_i hwritten
    obtain ⟨found, hfound, hid⟩ := List.mem_map.mp (List.contains_iff_mem.mp hwritten)
    obtain ⟨hmem, hkey⟩ := List.mem_filter.mp ((List.takeWhile_sublist _).subset hfound)
    have hsame : found = old := Library.Collection.eq_of_key external_id_key_mem hmem hold
      (external_id_key_eq.mpr hid) (external_id_key_eq.mpr rfl)
    subst hsame
    exact .inr ⟨of_decide_eq_true hkey, rfl⟩
  · exact .inl rfl

/-! ## What a reconciliation keeps -/

/-- The database refuses the operation for a device: it does not accept a path, two paths conflict,
or a path leads through a value that is no object. -/
def Refused (acceptsPath : List String → Bool) (config : DeviceConfig) (device : Device) : Prop :=
  ∃ payloadSection ∈ payloadsSections,
    ¬ Acceptable acceptsPath (reconcileUpdates config device payloadSection) ∨
      applyAll (reconcileUpdates config device payloadSection)
        (payloadOf device payloadSection) = none

/-- The updates whose dotted paths lead into an entry leave its value. -/
def NestedUnchanged (config : DeviceConfig) (device : Device)
    (payloadSection : DeviceConfigSection) (name : String) (value : Value) : Prop :=
  ((updatesOf (reconcileUpdates config device payloadSection) name).filter
    (·.path ≠ [name])).foldlM (entryStep name) (some value) = some (some value)

instance (config : DeviceConfig) (device : Device) (payloadSection : DeviceConfigSection)
    (name : String) (value : Value) :
    Decidable (NestedUnchanged config device payloadSection name value) :=
  inferInstanceAs (Decidable (_ = some (some value)))

/-- An entry is declared, or its name holds a dot and is no path of its own. -/
def DeclaredOrDotted (config : DeviceConfig) (payloadSection : DeviceConfigSection)
    (name : String) : Prop :=
  (findItem ((config.items payloadSection).getD []) name).isSome = true ∨
    components name ≠ [name]

section Sections

variable {config : DeviceConfig} {device : Device} {payloadSection : DeviceConfigSection}
  {name : String} {value : Value}

theorem find_item_is_some {items : List DeviceConfigItem} :
    (findItem items name).isSome = true ↔
      (items.any fun item => item.name.strictEq (.string name)) = true := by
  rw [findItem, List.find?_isSome, List.any_eq_true]

/-- The updates of a section set missing items and unset undeclared entries. -/
theorem section_update_cases {items : List DeviceConfigItem} {stored : DevicePayload}
    {update : FieldUpdate} (h : update ∈ (sectionOperation items stored).updates) :
    (∃ item ∈ items, stored.hasProperty item.name.toString = false ∧
      update = ⟨components item.name.toString, some (getItemDefaultValue item)⟩) ∨
    ∃ undeclared value, stored.lookup undeclared = some value ∧
      (findItem items undeclared).isSome = false ∧ update = ⟨components undeclared, none⟩ := by
  unfold sectionOperation at h
  split at h
  · simp [SectionOperation.updates] at h
  · rcases List.mem_append.mp h with hset | hunset
    · obtain ⟨⟨missing, value⟩, hentry, rfl⟩ := List.mem_map.mp hset
      have hassigned := Object.mem_of_lookup_of_assignments (AList.mem_lookup_iff.mpr hentry)
      obtain ⟨item, hitem, hname⟩ := List.mem_map.mp hassigned
      obtain ⟨hmem, hmissing⟩ := List.mem_filter.mp hitem
      cases hname
      exact .inl ⟨item, hmem, by simpa using hmissing, rfl⟩
    · obtain ⟨undeclared, hmem, rfl⟩ := List.mem_map.mp hunset
      obtain ⟨hkey, hnone⟩ := List.mem_filter.mp hmem
      obtain ⟨value, hvalue⟩ := Object.mem_iff_lookup.mp (AList.mem_keys.mpr hkey)
      refine .inr ⟨undeclared, value, hvalue, ?_, rfl⟩
      rwa [Bool.not_eq_true', ← Bool.not_eq_true, ← find_item_is_some, Bool.not_eq_true] at hnone

/-- A missing item is set to the default of an item of its name. -/
theorem set_mem_section_updates {items : List DeviceConfigItem} {stored : DevicePayload}
    {item : DeviceConfigItem} (hitem : item ∈ items)
    (hmissing : stored.hasProperty item.name.toString = false) :
    ∃ other ∈ items, other.name.toString = item.name.toString ∧
      ⟨components item.name.toString, some (getItemDefaultValue other)⟩ ∈
        (sectionOperation items stored).updates := by
  unfold sectionOperation
  rw [if_neg (by simpa using List.ne_nil_of_mem hitem)]
  have hassigned : ⟨item.name.toString, getItemDefaultValue item⟩ ∈
      ((items.filter fun item => !stored.hasProperty item.name.toString).map fun item =>
        (⟨item.name.toString, getItemDefaultValue item⟩ : Σ _ : String, Value)) :=
    List.mem_map.mpr ⟨item, List.mem_filter.mpr ⟨hitem, by simpa using hmissing⟩, rfl⟩
  obtain ⟨value, hvalue⟩ :=
    Object.mem_iff_lookup.mp (Object.mem_of_assignments.mpr ⟨_, hassigned⟩)
  obtain ⟨other, hother, hsame⟩ :=
    List.mem_map.mp (Object.mem_of_lookup_of_assignments hvalue)
  obtain ⟨hname, hdefault⟩ := Sigma.mk.inj hsame
  refine ⟨other, (List.mem_filter.mp hother).1, hname, List.mem_append_left _ ?_⟩
  rw [eq_of_heq hdefault]
  exact List.mem_map.mpr ⟨_, AList.mem_lookup_iff.mp hvalue, rfl⟩

/-- A stored entry that is not declared is unset. -/
theorem unset_mem_section_updates {items : List DeviceConfigItem} {stored : DevicePayload}
    (hitems : items ≠ []) (hlookup : stored.lookup name = some value)
    (hundeclared : (findItem items name).isSome = false) :
    ⟨components name, none⟩ ∈ (sectionOperation items stored).updates := by
  unfold sectionOperation
  rw [if_neg (by simpa using hitems)]
  refine List.mem_append_right _ (List.mem_map.mpr ⟨name, List.mem_filter.mpr ⟨?_, ?_⟩, rfl⟩)
  · exact AList.mem_keys.mp (Object.mem_iff_lookup.mpr ⟨value, hlookup⟩)
  · rw [Bool.not_eq_true', ← Bool.not_eq_true, ← find_item_is_some, hundeclared]
    exact Bool.false_ne_true

/-- The updates of a section have paths. -/
theorem section_update_path_ne_nil {items : List DeviceConfigItem} {stored : DevicePayload} :
    ∀ update ∈ (sectionOperation items stored).updates, update.path ≠ [] := by
  intro update hupdate
  rcases section_update_cases hupdate with ⟨item, -, -, rfl⟩ | ⟨undeclared, value, -, -, rfl⟩
  · exact components_ne_nil _
  · exact components_ne_nil undeclared

/-- An update of a whole stored entry unsets it, and the entry is neither declared nor dotted. -/
theorem whole_entry_update {update : FieldUpdate}
    (hlookup : (payloadOf device payloadSection).lookup name = some value)
    (hupdate : update ∈ reconcileUpdates config device payloadSection)
    (hpath : update.path = [name]) :
    update.change = none ∧ ¬ DeclaredOrDotted config payloadSection name := by
  rcases section_update_cases hupdate with
    ⟨item, -, hmissing, rfl⟩ | ⟨undeclared, other, -, hundeclared, rfl⟩
  · rw [eq_of_components hpath, Object.hasProperty, hlookup] at hmissing
    cases hmissing
  · have hname : undeclared = name := eq_of_components hpath
    subst hname
    refine ⟨rfl, fun h => ?_⟩
    rcases h with hdeclared | hdotted
    · rw [hundeclared] at hdeclared
      cases hdeclared
    · exact hdotted hpath

/-- A stored entry keeps its value exactly when it is declared or dotted and the updates that lead
into it leave its value. -/
theorem entry_kept_iff {acceptsPath : List String → Bool} {final : DevicePayload}
    (hitems : (config.items payloadSection).getD [] ≠ [])
    (hacceptable : Acceptable acceptsPath (reconcileUpdates config device payloadSection))
    (hfinal : applyAll (reconcileUpdates config device payloadSection)
      (payloadOf device payloadSection) = some final)
    (hlookup : (payloadOf device payloadSection).lookup name = some value) :
    final.lookup name = some value ↔
      DeclaredOrDotted config payloadSection name ∧
        NestedUnchanged config device payloadSection name value := by
  have hpaths : ∀ update ∈ reconcileUpdates config device payloadSection, update.path ≠ [] :=
    section_update_path_ne_nil
  have hentry := lookup_apply_all hfinal name
  rw [hlookup, foldl_m_entry_step hpaths] at hentry
  -- the paths do not conflict: what changes the whole entry is the only update of it
  by_cases hwhole : ∃ update ∈ reconcileUpdates config device payloadSection,
      update.path = [name]
  · obtain ⟨update, hupdate, hpath⟩ := hwhole
    obtain ⟨hchange, hneither⟩ := whole_entry_update hlookup hupdate hpath
    have hstep : entryStep name (some value) update = some none := by
      simp [entryStep, hpath, changeAt, hchange]
    rw [updates_of_whole_entry hupdate hpath hacceptable.2, List.foldlM_cons, hstep] at hentry
    rw [← Option.some.inj hentry]
    refine iff_of_false (fun hsome => ?_) fun h => hneither h.1
    cases hsome
  · have hall : (updatesOf (reconcileUpdates config device payloadSection) name).filter
        (·.path ≠ [name]) = updatesOf (reconcileUpdates config device payloadSection) name :=
      List.filter_eq_self.mpr fun update hupdate =>
        decide_eq_true fun hpath => hwhole ⟨update, (List.mem_filter.mp hupdate).1, hpath⟩
    have hdeclared : DeclaredOrDotted config payloadSection name := by
      by_contra hneither
      obtain ⟨hundeclared, hdotted⟩ := not_or.mp hneither
      exact hwhole ⟨_, unset_mem_section_updates hitems hlookup
        (Bool.not_eq_true _ ▸ hundeclared), not_not.mp hdotted⟩
    rw [NestedUnchanged, hall, hentry, Option.some.injEq, and_iff_right hdeclared]

end Sections

/-! ## Reconciliation and validation -/

section Documents

variable {acceptsPath : List String → Bool} {config : DeviceConfig} {device : Device}

/-- A refused operation leaves no document. -/
theorem reconcile_device_none_iff :
    reconcileDevice acceptsPath config device = none ↔ Refused acceptsPath config device := by
  have hsections : Refused acceptsPath config device ↔
      (¬ Acceptable acceptsPath (reconcileUpdates config device .controls) ∨
        applyAll (reconcileUpdates config device .controls) device.controls = none) ∨
      (¬ Acceptable acceptsPath (reconcileUpdates config device .measurements) ∨
        applyAll (reconcileUpdates config device .measurements) device.measurements = none) := by
    unfold Refused payloadsSections
    rw [List.exists_mem_cons_iff, List.exists_mem_cons_iff]
    simp [payloadOf]
  rw [hsections, reconcileDevice]
  split
  · rename_i hacceptable
    simp only [hacceptable.1, hacceptable.2, not_true_eq_false, false_or]
    cases applyAll (reconcileUpdates config device .controls) device.controls with
    | none => simp
    | some controls =>
        cases applyAll (reconcileUpdates config device .measurements) device.measurements with
        | none => simp
        | some measurements => simp
  · rename_i hrefused
    refine iff_of_true rfl ?_
    rcases not_and_or.mp hrefused with hcontrols | hmeasurements
    · exact .inl (.inl hcontrols)
    · exact .inr (.inl hmeasurements)

/-- Where the operation is not refused, both sections are updated. -/
theorem reconciled_payload {reconciled : Device}
    (h : reconcileDevice acceptsPath config device = some reconciled)
    {payloadSection : DeviceConfigSection} (hsection : payloadSection ∈ payloadsSections) :
    Acceptable acceptsPath (reconcileUpdates config device payloadSection) ∧
      applyAll (reconcileUpdates config device payloadSection) (payloadOf device payloadSection) =
        some (payloadOf reconciled payloadSection) := by
  obtain ⟨hcontrols, hmeasurements, -⟩ := reconcile_device_fields h
  have hacceptable : Acceptable acceptsPath (reconcileUpdates config device .controls) ∧
      Acceptable acceptsPath (reconcileUpdates config device .measurements) := by
    by_contra hrefused
    rw [reconcileDevice, if_neg hrefused] at h
    cases h
  rcases List.mem_pair.mp hsection with rfl | rfl
  · exact ⟨hacceptable.1, hcontrols⟩
  · exact ⟨hacceptable.2, hmeasurements⟩

variable [ExternalCalls]

/-- An entry that the validator accepts is the flag, or declared, or the config is not strict. -/
theorem declared_of_accepts {payloadSection : DeviceConfigSection}
    (haccepted : collectErrors (payloadOf device payloadSection)
      { buildOptions config payloadSection .reject with strictPresence := false } = .ok [])
    {name : String} {value : Value}
    (hlookup : (payloadOf device payloadSection).lookup name = some value)
    (hstrict : config.isStrict = true) (hname : name ≠ devicePayloadOverrideKey) :
    DeclaredOrDotted config payloadSection name := by
  have hfield := (collect_errors_nil_iff rfl).mp haccepted name value hlookup hname
  refine .inl ?_
  rw [Option.isSome_iff_ne_none]
  intro hnone
  have hloose : config.isStrict = false := (validate_field_ok_iff.mp hfield).1 hnone
  rw [hstrict] at hloose
  cases hloose

/-- Reconciling a device whose entries the validator accepts keeps all of them exactly when the
database refuses the operation, or in every section with items each entry is declared, as it is
under a strict config unless it is the flag, and no dotted name changes it. -/
theorem reconcile_keeps_iff
    (haccepted : ∀ payloadSection ∈ payloadsSections,
      collectErrors (payloadOf device payloadSection)
        { buildOptions config payloadSection .reject with strictPresence := false } = .ok []) :
    (∀ payloadSection ∈ payloadsSections, ∀ name value,
      (payloadOf device payloadSection).lookup name = some value →
        (payloadOf ((reconcileDevice acceptsPath config device).getD device)
          payloadSection).lookup name = some value) ↔
      (Refused acceptsPath config device ∨
        ∀ payloadSection ∈ payloadsSections, (config.items payloadSection).getD [] ≠ [] →
          ∀ name value, (payloadOf device payloadSection).lookup name = some value →
            ((config.isStrict = true ∧ name ≠ devicePayloadOverrideKey) ∨
              DeclaredOrDotted config payloadSection name) ∧
            NestedUnchanged config device payloadSection name value) := by
  cases hreconcile : reconcileDevice acceptsPath config device with
  | none =>
      refine iff_of_true (fun payloadSection _ name value hlookup => hlookup) (.inl ?_)
      exact reconcile_device_none_iff.mp hreconcile
  | some reconciled =>
      have hnotRefused : ¬ Refused acceptsPath config device := by
        rw [← reconcile_device_none_iff, hreconcile]
        exact nofun
      rw [or_iff_right hnotRefused, Option.getD_some]
      refine forall_congr' fun payloadSection => forall_congr' fun hsection => ?_
      obtain ⟨hacceptable, hfinal⟩ := reconciled_payload hreconcile hsection
      by_cases hitems : (config.items payloadSection).getD [] = []
      · -- Without items there are no updates.
        have hnone : reconcileUpdates config device payloadSection = [] := by
          simp [reconcileUpdates, sectionOperation, hitems, SectionOperation.updates]
        rw [hnone] at hfinal
        have hsame : payloadOf device payloadSection = payloadOf reconciled payloadSection :=
          Option.some.inj hfinal
        rw [← hsame]
        exact iff_of_true (fun name value hlookup => hlookup) fun h => absurd hitems h
      · rw [forall_prop_of_true hitems]
        refine forall_congr' fun name => forall_congr' fun value =>
          forall_congr' fun hlookup => ?_
        rw [entry_kept_iff hitems hacceptable hfinal hlookup]
        refine and_congr_left fun _ => ⟨.inr, fun h => ?_⟩
        rcases h with ⟨hstrict, hname⟩ | hdeclared
        · exact declared_of_accepts (haccepted payloadSection hsection) hlookup hstrict hname
        · exact hdeclared

end Documents

/-! ## A plug with a note -/

/-- A config that declares two controls of a plug. -/
def reconciledConfig (strict : Bool) : DeviceConfig where
  brand := .shelly
  type := .plug
  transportProtocol := .http
  strict := some strict
  commands := some []
  controls := some [
    { label := .string "Power", name := .string "on", type := .boolean },
    { label := .string "Level", name := .string "level", type := .number }]
  measurements := some []

/-- A plug that is switched on, with further controls. -/
def notedPlug (notes : List (Σ _ : String, Value)) : Device where
  externalId := "plug"
  name := .value "Plug"
  type := .value .plug
  brand := .value .shelly
  transportProtocol := .value .http
  controls := .ofAssignments (⟨"on", .bool true⟩ :: notes)

/-- The plug after the reconciliation by a database that accepts every path. -/
def reconciledPlug (strict : Bool) (notes : List (Σ _ : String, Value)) : Device :=
  (reconcileDevice (fun _ => true) (reconciledConfig strict) (notedPlug notes)).getD
    (notedPlug notes)

/-- A plug whose controls are all declared keeps them, and is given the missing one. -/
theorem reconcile_keeps_iff_declared :
    (∀ payloadSection ∈ payloadsSections, ∀ name value,
      (payloadOf (notedPlug []) payloadSection).lookup name = some value →
        (payloadOf (reconciledPlug true []) payloadSection).lookup name = some value) ∧
    (reconciledPlug true []).controls.lookup "level" = some .null := by
  refine ⟨(@reconcile_keeps_iff (fun _ => true) (reconciledConfig true) (notedPlug []) .unused
    ?_).mpr (.inr ?_), by decide +kernel⟩
  · intro payloadSection hsection
    rcases List.mem_pair.mp hsection with rfl | rfl <;> rfl
  · intro payloadSection hsection hitems name value hlookup
    rcases List.mem_pair.mp hsection with rfl | rfl
    · have hentry := List.mem_singleton.mp (Object.mem_of_lookup_of_assignments hlookup)
      cases hentry
      exact ⟨.inl ⟨rfl, by decide⟩, by decide +kernel⟩
    · exact absurd rfl hitems

/-- The plug with a note that its config does not declare. -/
def deskPlug : Device :=
  notedPlug [⟨"note", .string "desk"⟩]

/-- Under a config that is not strict, the validator accepts the note and the reconciliation removes
it. -/
theorem reconcile_removes_accepted :
    (∀ payloadSection ∈ payloadsSections,
      @collectErrors .unused (payloadOf deskPlug payloadSection)
        { buildOptions (reconciledConfig false) payloadSection .reject with
          strictPresence := false } = .ok []) ∧
    ¬ ∀ payloadSection ∈ payloadsSections, ∀ name value,
      (payloadOf deskPlug payloadSection).lookup name = some value →
        (payloadOf (reconciledPlug false [⟨"note", .string "desk"⟩])
          payloadSection).lookup name = some value := by
  refine ⟨fun payloadSection hsection => ?_, fun hkept => ?_⟩
  · rcases List.mem_pair.mp hsection with rfl | rfl <;> rfl
  · have hnote := hkept .controls List.mem_cons_self "note" (.string "desk") (by decide +kernel)
    revert hnote
    decide +kernel

end MyHomeHub.DevicesService
