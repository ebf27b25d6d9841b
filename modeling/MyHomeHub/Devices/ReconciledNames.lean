import MyHomeHub.DeviceConfigs.Parser
import MyHomeHub.Devices.Reconcile

/-!
# The names that a reconciliation leaves

A reconciliation is meant to store exactly the declared names, and to be finished after one
operation. `i.name in storedPayload` asks for own and inherited names and turns the name
into a string, `i.name === n` compares strictly, and the operation reads a dot in a name as
a step into a sub-document. `reconciles_iff` says for which names this makes no difference.
-/

namespace MyHomeHub.DevicesService

open JavaScript ConfigsParser ConfigsValidator DeviceSchema Library.DocumentPath

/-- The stored names of a section are the declared ones, with their old values or their
defaults. -/
structure SectionReconciled (items : List DeviceConfigItem) (stored final : DevicePayload) :
    Prop where
  names : ∀ name, (final.lookup name).isSome = true ↔ ∃ item ∈ items, item.name.toString = name
  kept : ∀ item ∈ items, ∀ value, stored.lookup item.name.toString = some value →
    final.lookup item.name.toString = some value
  added : ∀ item ∈ items, stored.lookup item.name.toString = none →
    final.lookup item.name.toString = some (getItemDefaultValue item)

/-- A device is reconciled: the sections with items hold the declared names, everything else is as
it was, and there is nothing left to do. -/
structure Reconciles (config : DeviceConfig) (device reconciled : Device) : Prop where
  sections : ∀ payloadSection ∈ payloadsSections, (config.items payloadSection).getD [] ≠ [] →
    SectionReconciled ((config.items payloadSection).getD []) (payloadOf device payloadSection)
      (payloadOf reconciled payloadSection)
  untouched : ∀ payloadSection ∈ payloadsSections, (config.items payloadSection).getD [] = [] →
    payloadOf reconciled payloadSection = payloadOf device payloadSection
  others : reconciled =
    { device with controls := reconciled.controls, measurements := reconciled.measurements }
  settled : ∀ payloadSection ∈ payloadsSections,
    reconcileUpdates config reconciled payloadSection = []

/-- A name without a dot that the database accepts as a path. -/
def PlainName (acceptsPath : List String → Bool) (name : String) : Prop :=
  '.' ∉ name.toList ∧ acceptsPath [name] = true

/-- The names of a section can be reconciled. -/
structure NamesReconcilable (acceptsPath : List String → Bool) (items : List DeviceConfigItem)
    (stored : DevicePayload) : Prop where
  /-- Every name is declared as a string. -/
  named : ∀ item ∈ items, ∃ other ∈ items, other.name = .string item.name.toString
  /-- A missing name is plain and not inherited, and its items agree on the default. -/
  added : ∀ item ∈ items, stored.lookup item.name.toString = none →
    PlainName acceptsPath item.name.toString ∧
      item.name.toString ∉ Object.prototypeNames ∧
      ∀ other ∈ items, other.name.toString = item.name.toString →
        getItemDefaultValue other = getItemDefaultValue item
  /-- A stored name that is not declared is plain. -/
  removed : ∀ name value, stored.lookup name = some value →
    (∀ item ∈ items, item.name ≠ .string name) → PlainName acceptsPath name

variable {acceptsPath : List String → Bool} {items : List DeviceConfigItem}
  {stored final : DevicePayload} {name : String} {value : Value}

/-! ## Declared and missing names -/

theorem find_item_declared : (findItem items name).isSome = true ↔
    ∃ item ∈ items, item.name = .string name := by
  rw [← not_iff_not, Bool.not_eq_true, Option.isSome_eq_false_iff, Option.isNone_iff_eq_none,
    find_item_none]
  simp

/-- A name that is neither stored nor inherited is missing. -/
theorem has_property_false : stored.hasProperty name = false ↔
    stored.lookup name = none ∧ name ∉ Object.prototypeNames := by
  rw [Object.hasProperty, Bool.or_eq_false_iff, Option.isSome_eq_false_iff,
    Option.isNone_iff_eq_none, ← Bool.not_eq_true, List.contains_iff_mem]

/-- Nothing is left to do exactly when no item is missing and every stored name is declared. -/
theorem section_updates_nil_iff (hitems : items ≠ []) :
    (sectionOperation items stored).updates = [] ↔
      (∀ item ∈ items, stored.hasProperty item.name.toString = true) ∧
        ∀ name value, stored.lookup name = some value →
          (findItem items name).isSome = true := by
  constructor
  · intro hnil
    constructor
    · intro item hitem
      by_contra hmissing
      obtain ⟨other, -, -, hmem⟩ :=
        set_mem_section_updates hitem ((Bool.not_eq_true _).mp hmissing)
      rw [hnil] at hmem
      cases hmem
    · intro name value hlookup
      by_contra hundeclared
      have hmem := unset_mem_section_updates hitems hlookup ((Bool.not_eq_true _).mp hundeclared)
      rw [hnil] at hmem
      cases hmem
  · intro h
    obtain ⟨hpresent, hdeclared⟩ := h
    refine List.eq_nil_iff_forall_not_mem.mpr fun update hupdate => ?_
    rcases section_update_cases hupdate with
      ⟨item, hitem, hmissing, -⟩ | ⟨undeclared, value, hlookup, hnone, -⟩
    · rw [hpresent item hitem] at hmissing
      cases hmissing
    · rw [hdeclared undeclared value hlookup] at hnone
      cases hnone

/-! ## Plain names -/

/-- The updates of a section have different paths. -/
theorem section_update_paths_nodup (items : List DeviceConfigItem) (stored : DevicePayload) :
    ((sectionOperation items stored).updates.map (·.path)).Nodup := by
  have hpaths : (sectionOperation items stored).updates.map (·.path) =
      ((sectionOperation items stored).setFields.keys ++
        (sectionOperation items stored).unsetFields).map components := by
    simp [SectionOperation.updates, AList.keys, List.keys, Function.comp_def]
  rw [hpaths]
  refine List.Nodup.map components_injective (List.nodup_append.mpr ⟨AList.keys_nodup _, ?_, ?_⟩)
  · unfold sectionOperation
    split
    · exact List.nodup_nil
    · exact (AList.keys_nodup stored).filter _
  · -- a name that is set is not stored, and one that is unset is
    intro missing hset undeclared hunset hsame
    subst hsame
    obtain ⟨value, hvalue⟩ := Object.mem_iff_lookup.mp (AList.mem_keys.mpr hset)
    have hupdate : ⟨components missing, some value⟩ ∈ (sectionOperation items stored).updates :=
      List.mem_append_left _ (List.mem_map.mpr ⟨_, AList.mem_lookup_iff.mp hvalue, rfl⟩)
    have hother : ⟨components missing, none⟩ ∈ (sectionOperation items stored).updates :=
      List.mem_append_right _ (List.mem_map.mpr ⟨missing, hunset, rfl⟩)
    have hmissing : stored.lookup missing = none := by
      rcases section_update_cases hupdate with ⟨item, -, hmissing, h⟩ | ⟨_, _, -, -, h⟩
      · rw [components_injective (FieldUpdate.mk.inj h).1]
        exact (has_property_false.mp hmissing).1
      · cases (FieldUpdate.mk.inj h).2
    rcases section_update_cases hother with ⟨_, -, -, h⟩ | ⟨other, old, hlookup, -, h⟩
    · cases (FieldUpdate.mk.inj h).2
    · rw [← components_injective (FieldUpdate.mk.inj h).1, hmissing] at hlookup
      cases hlookup

/-- The updates of reconcilable names are accepted, and each of them changes a whole entry. -/
theorem section_acceptable (h : NamesReconcilable acceptsPath items stored) :
    (∀ update ∈ (sectionOperation items stored).updates, ∃ name, update.path = [name]) ∧
      Acceptable acceptsPath (sectionOperation items stored).updates := by
  have hplain : ∀ update ∈ (sectionOperation items stored).updates,
      ∃ name, update.path = [name] ∧ acceptsPath [name] = true := by
    intro update hupdate
    rcases section_update_cases hupdate with
      ⟨item, hitem, hmissing, rfl⟩ | ⟨undeclared, value, hlookup, hnone, rfl⟩
    · obtain ⟨⟨hdot, haccepts⟩, -⟩ := h.added item hitem (has_property_false.mp hmissing).1
      exact ⟨_, components_of_no_dot hdot, haccepts⟩
    · have hundeclared : ∀ item ∈ items, item.name ≠ .string undeclared := by
        intro item hitem hname
        rw [find_item_declared.mpr ⟨item, hitem, hname⟩] at hnone
        cases hnone
      obtain ⟨hdot, haccepts⟩ := h.removed undeclared value hlookup hundeclared
      exact ⟨_, components_of_no_dot hdot, haccepts⟩
  have hwhole : ∀ update ∈ (sectionOperation items stored).updates,
      ∃ name, update.path = [name] := by
    intro update hupdate
    obtain ⟨name, hpath, -⟩ := hplain update hupdate
    exact ⟨name, hpath⟩
  refine ⟨hwhole, fun update hupdate => ?_,
    no_conflict_of_whole_entries hwhole (section_update_paths_nodup items stored)⟩
  obtain ⟨name, hpath, haccepts⟩ := hplain update hupdate
  rw [hpath]
  exact haccepts

section Applied

variable (hwhole : ∀ update ∈ (sectionOperation items stored).updates, ∃ name, update.path = [name])
  (hfinal : applyAll (sectionOperation items stored).updates stored = some final)

include hwhole hfinal

theorem lookup_not_updated
    (hnone : ∀ update ∈ (sectionOperation items stored).updates, update.path ≠ [name]) :
    final.lookup name = stored.lookup name := by
  refine lookup_untouched hfinal section_update_path_ne_nil fun update hupdate hhead => ?_
  obtain ⟨other, hpath⟩ := hwhole update hupdate
  rw [hpath, List.head?_cons, Option.some.injEq] at hhead
  exact hnone update hupdate (hhead ▸ hpath)

/-- A declared entry is kept. -/
theorem lookup_declared (hlookup : stored.lookup name = some value)
    (hdeclared : (findItem items name).isSome = true) : final.lookup name = some value := by
  rw [lookup_not_updated hwhole hfinal, hlookup]
  intro update hupdate hpath
  rcases section_update_cases hupdate with
    ⟨item, -, hmissing, rfl⟩ | ⟨undeclared, other, -, hnone, rfl⟩
  · rw [eq_of_components hpath, has_property_false, hlookup] at hmissing
    cases hmissing.1
  · rw [eq_of_components hpath, hdeclared] at hnone
    cases hnone

/-- A name that is neither stored nor declared is not added. -/
theorem lookup_neither (hlookup : stored.lookup name = none)
    (hdeclared : ∀ item ∈ items, item.name.toString ≠ name) : final.lookup name = none := by
  rw [lookup_not_updated hwhole hfinal, hlookup]
  intro update hupdate hpath
  rcases section_update_cases hupdate with
    ⟨item, hitem, -, rfl⟩ | ⟨undeclared, other, hother, -, rfl⟩
  · exact hdeclared item hitem (eq_of_components hpath)
  · rw [eq_of_components hpath, hlookup] at hother
    cases hother

variable (hconflicts : (sectionOperation items stored).updates.Pairwise fun a b => ¬ Conflict a b)

include hconflicts

/-- A missing name gets the default of an item of that name. -/
theorem lookup_missing {item : DeviceConfigItem} (hitem : item ∈ items)
    (hmissing : stored.hasProperty item.name.toString = false) :
    ∃ other ∈ items, other.name.toString = item.name.toString ∧
      final.lookup item.name.toString = some (getItemDefaultValue other) := by
  obtain ⟨other, hother, hname, hmem⟩ := set_mem_section_updates hitem hmissing
  obtain ⟨whole, hpath⟩ := hwhole _ hmem
  have hplain : whole = item.name.toString := (eq_of_components hpath).symm
  rw [hplain] at hpath
  exact ⟨other, hother, hname,
    lookup_whole_entry hfinal section_update_path_ne_nil hconflicts hmem hpath⟩

/-- An entry that is not declared is removed. -/
theorem lookup_undeclared (hitems : items ≠ []) (hlookup : stored.lookup name = some value)
    (hundeclared : (findItem items name).isSome = false) : final.lookup name = none := by
  have hmem := unset_mem_section_updates hitems hlookup hundeclared
  obtain ⟨whole, hpath⟩ := hwhole _ hmem
  have hplain : whole = name := (eq_of_components hpath).symm
  rw [hplain] at hpath
  exact lookup_whole_entry hfinal section_update_path_ne_nil hconflicts hmem hpath

end Applied

/-- The updates of reconcilable names leave the declared names. -/
theorem section_reconciled (hitems : items ≠ []) (h : NamesReconcilable acceptsPath items stored)
    (hfinal : applyAll (sectionOperation items stored).updates stored = some final) :
    SectionReconciled items stored final := by
  obtain ⟨hwhole, -, hconflicts⟩ := section_acceptable h
  have hkept : ∀ item ∈ items, ∀ value, stored.lookup item.name.toString = some value →
      final.lookup item.name.toString = some value := by
    intro item hitem value hlookup
    exact lookup_declared hwhole hfinal hlookup (find_item_declared.mpr (h.named item hitem))
  have hadded : ∀ item ∈ items, stored.lookup item.name.toString = none →
      final.lookup item.name.toString = some (getItemDefaultValue item) := by
    intro item hitem hlookup
    obtain ⟨-, hinherited, hagree⟩ := h.added item hitem hlookup
    obtain ⟨other, hother, hname, hvalue⟩ := lookup_missing hwhole hfinal hconflicts hitem
      (has_property_false.mpr ⟨hlookup, hinherited⟩)
    rw [hvalue, hagree other hother hname]
  refine ⟨fun name => ⟨fun hsome => ?_, fun hdeclared => ?_⟩, hkept, hadded⟩
  · cases hlookup : stored.lookup name with
    | none =>
        by_contra hnone
        rw [lookup_neither hwhole hfinal hlookup fun item hitem hname =>
          hnone ⟨item, hitem, hname⟩] at hsome
        cases hsome
    | some value =>
        cases hdeclared : (findItem items name).isSome with
        | true =>
            obtain ⟨item, hitem, hname⟩ := find_item_declared.mp hdeclared
            exact ⟨item, hitem, by rw [hname]; rfl⟩
        | false =>
            rw [lookup_undeclared hwhole hfinal hconflicts hitems hlookup hdeclared] at hsome
            cases hsome
  · obtain ⟨item, hitem, rfl⟩ := hdeclared
    cases hlookup : stored.lookup item.name.toString with
    | none => rw [hadded item hitem hlookup]; rfl
    | some value => rw [hkept item hitem value hlookup]; rfl

/-- Where every name is declared as a string, the declared names leave nothing to do. -/
theorem section_settled (hitems : items ≠ [])
    (hnamed : ∀ item ∈ items, ∃ other ∈ items, other.name = .string item.name.toString)
    (hreconciled : SectionReconciled items stored final) :
    (sectionOperation items final).updates = [] := by
  refine (section_updates_nil_iff hitems).mpr ⟨fun item hitem => ?_, fun name value hlookup => ?_⟩
  · have hsome := (hreconciled.names _).mpr ⟨item, hitem, rfl⟩
    rw [Object.hasProperty, hsome, Bool.true_or]
  · obtain ⟨item, hitem, rfl⟩ := (hreconciled.names name).mp (by rw [hlookup]; rfl)
    exact find_item_declared.mpr (hnamed item hitem)

/-! ## The names that a reconciled section has -/

/-- A dotted name is not the beginning of any path, so its entry stays as it is. -/
theorem lookup_dotted
    (hfinal : applyAll (sectionOperation items stored).updates stored = some final)
    (hdot : '.' ∈ name.toList) : final.lookup name = stored.lookup name := by
  refine lookup_untouched hfinal section_update_path_ne_nil fun update hupdate hhead => ?_
  rcases section_update_cases hupdate with ⟨item, -, -, rfl⟩ | ⟨other, value, -, -, rfl⟩
  · exact no_dot_of_head hhead hdot
  · exact no_dot_of_head hhead hdot

/-- An inherited name counts as present, so nothing adds it. -/
theorem lookup_inherited
    (hfinal : applyAll (sectionOperation items stored).updates stored = some final)
    (hadded : ∀ item ∈ items, stored.lookup item.name.toString = none →
      '.' ∉ item.name.toString.toList)
    (hremoved : ∀ name value, stored.lookup name = some value →
      (∀ item ∈ items, item.name ≠ .string name) → '.' ∉ name.toList)
    (hinherited : name ∈ Object.prototypeNames) (hlookup : stored.lookup name = none) :
    final.lookup name = none := by
  rw [← hlookup]
  refine lookup_untouched hfinal section_update_path_ne_nil fun update hupdate hhead => ?_
  rcases section_update_cases hupdate with
    ⟨other, hother, hmissing, rfl⟩ | ⟨other, value, hother, hnone, rfl⟩
  · obtain ⟨hempty, hnot⟩ := has_property_false.mp hmissing
    rw [components_of_no_dot (hadded other hother hempty), List.head?_cons,
      Option.some.injEq] at hhead
    exact hnot (hhead ▸ hinherited)
  · have hplain := hremoved other value hother fun item hitem hname => by
      rw [find_item_declared.mpr ⟨item, hitem, hname⟩] at hnone
      cases hnone
    rw [components_of_no_dot hplain, List.head?_cons, Option.some.injEq] at hhead
    rw [hhead, hlookup] at hother
    cases hother

/-- Names that were reconciled are reconcilable. -/
theorem names_reconcilable_of_reconciled (hitems : items ≠ [])
    (hacceptable : Acceptable acceptsPath (sectionOperation items stored).updates)
    (hfinal : applyAll (sectionOperation items stored).updates stored = some final)
    (hreconciled : SectionReconciled items stored final)
    (hsettled : (sectionOperation items final).updates = []) :
    NamesReconcilable acceptsPath items stored := by
  obtain ⟨-, hdeclared⟩ := (section_updates_nil_iff hitems).mp hsettled
  have hnamed : ∀ item ∈ items, ∃ other ∈ items, other.name = .string item.name.toString := by
    intro item hitem
    obtain ⟨value, hvalue⟩ :=
      Option.isSome_iff_exists.mp ((hreconciled.names _).mpr ⟨item, hitem, rfl⟩)
    exact find_item_declared.mp (hdeclared _ value hvalue)
  have hundeclared {name : String} (h : ∀ item ∈ items, item.name ≠ .string name) :
      (findItem items name).isSome = false := by
    rw [← Bool.not_eq_true, find_item_declared]
    intro hsome
    obtain ⟨item, hitem, hname⟩ := hsome
    exact h item hitem hname
  have haddedPlain : ∀ item ∈ items, stored.lookup item.name.toString = none →
      '.' ∉ item.name.toString.toList := by
    intro item hitem hlookup hdot
    have hsome := (hreconciled.names _).mpr ⟨item, hitem, rfl⟩
    rw [lookup_dotted hfinal hdot, hlookup] at hsome
    cases hsome
  have hremovedPlain : ∀ name value, stored.lookup name = some value →
      (∀ item ∈ items, item.name ≠ .string name) → '.' ∉ name.toList := by
    intro name value hlookup hnone hdot
    have hsome : (final.lookup name).isSome = true := by
      rw [lookup_dotted hfinal hdot, hlookup]
      rfl
    obtain ⟨item, hitem, rfl⟩ := (hreconciled.names name).mp hsome
    obtain ⟨other, hother, hname⟩ := hnamed item hitem
    exact hnone other hother hname
  have hinherited : ∀ item ∈ items, stored.lookup item.name.toString = none →
      item.name.toString ∉ Object.prototypeNames := by
    intro item hitem hlookup hmem
    have hsome := (hreconciled.names _).mpr ⟨item, hitem, rfl⟩
    rw [lookup_inherited hfinal haddedPlain hremovedPlain hmem hlookup] at hsome
    cases hsome
  refine ⟨hnamed, fun item hitem hlookup => ⟨⟨haddedPlain item hitem hlookup, ?_⟩,
    hinherited item hitem hlookup, fun other hother hname => ?_⟩,
    fun name value hlookup hnone => ⟨hremovedPlain name value hlookup hnone, ?_⟩⟩
  · obtain ⟨other, -, -, hmem⟩ := set_mem_section_updates hitem
      (has_property_false.mpr ⟨hlookup, hinherited item hitem hlookup⟩)
    have haccepts := hacceptable.1 _ hmem
    rwa [components_of_no_dot (haddedPlain item hitem hlookup)] at haccepts
  · have hother := hreconciled.added other hother (by rw [hname, hlookup])
    rw [hname, hreconciled.added item hitem hlookup] at hother
    exact (Option.some.inj hother).symm
  · have haccepts := hacceptable.1 _ (unset_mem_section_updates hitems hlookup (hundeclared hnone))
    rwa [components_of_no_dot (hremovedPlain name value hlookup hnone)] at haccepts

/-! ## A device -/

theorem reconcile_updates_of_no_items {config : DeviceConfig} {device : Device}
    {payloadSection : DeviceConfigSection}
    (hitems : (config.items payloadSection).getD [] = []) :
    reconcileUpdates config device payloadSection = [] := by
  rw [reconcileUpdates, hitems]
  rfl

/-- No updates are never refused. -/
theorem no_updates_not_refused (acceptsPath : List String → Bool) (document : DevicePayload) :
    ¬ (¬ Acceptable acceptsPath [] ∨ applyAll [] document = none) := by
  intro h
  rcases h with hunacceptable | hnone
  · exact hunacceptable ⟨fun _ hmem => absurd hmem List.not_mem_nil, List.Pairwise.nil⟩
  · cases hnone

/-- An operation reconciles a device exactly when in both sections with items the names can be
reconciled. -/
theorem reconciles_iff (acceptsPath : List String → Bool) (config : DeviceConfig)
    (device : Device) :
    Reconciles config device ((reconcileDevice acceptsPath config device).getD device) ↔
      ∀ payloadSection ∈ payloadsSections, (config.items payloadSection).getD [] ≠ [] →
        NamesReconcilable acceptsPath ((config.items payloadSection).getD [])
          (payloadOf device payloadSection) := by
  constructor
  · intro h payloadSection hsection hitems
    cases hoperation : reconcileDevice acceptsPath config device with
    | none =>
        -- a refused operation would have to be carried out again
        rw [hoperation, Option.getD_none] at h
        obtain ⟨other, hother, hrefused⟩ := reconcile_device_none_iff.mp hoperation
        rw [h.settled other hother] at hrefused
        exact absurd hrefused (no_updates_not_refused acceptsPath _)
    | some reconciled =>
        rw [hoperation, Option.getD_some] at h
        obtain ⟨hacceptable, hfinal⟩ := reconciled_payload hoperation hsection
        exact names_reconcilable_of_reconciled hitems hacceptable hfinal
          (h.sections payloadSection hsection hitems) (h.settled payloadSection hsection)
  · intro hnames
    cases hoperation : reconcileDevice acceptsPath config device with
    | none =>
        obtain ⟨payloadSection, hsection, hrefused⟩ := reconcile_device_none_iff.mp hoperation
        by_cases hitems : (config.items payloadSection).getD [] = []
        · rw [reconcile_updates_of_no_items hitems] at hrefused
          rcases hrefused with hunacceptable | hnone
          · exact absurd ⟨fun _ hmem => absurd hmem List.not_mem_nil, List.Pairwise.nil⟩
              hunacceptable
          · cases hnone
        · obtain ⟨hwhole, hacceptable⟩ := section_acceptable (hnames payloadSection hsection hitems)
          rcases hrefused with hunacceptable | hnone
          · exact absurd hacceptable hunacceptable
          · obtain ⟨final, hfinal⟩ :=
              apply_all_of_whole_entries (payloadOf device payloadSection) hwhole
            cases hfinal.symm.trans hnone
    | some reconciled =>
        rw [Option.getD_some]
        obtain ⟨-, -, hothers⟩ := reconcile_device_fields hoperation
        have hsections : ∀ payloadSection ∈ payloadsSections,
            (config.items payloadSection).getD [] ≠ [] →
              SectionReconciled ((config.items payloadSection).getD [])
                (payloadOf device payloadSection) (payloadOf reconciled payloadSection) := by
          intro payloadSection hsection hitems
          exact section_reconciled hitems (hnames payloadSection hsection hitems)
            (reconciled_payload hoperation hsection).2
        refine ⟨hsections, fun payloadSection hsection hitems => ?_, hothers,
          fun payloadSection hsection => ?_⟩
        · have hfinal := (reconciled_payload hoperation hsection).2
          rw [reconcile_updates_of_no_items hitems] at hfinal
          exact (Option.some.inj hfinal).symm
        · by_cases hitems : (config.items payloadSection).getD [] = []
          · exact reconcile_updates_of_no_items hitems
          · exact section_settled hitems (hnames payloadSection hsection hitems).named
              (hsections payloadSection hsection hitems)

/-! ## A plug with a dotted name -/

/-- A control whose name holds a dot. -/
def redItems : List Value :=
  [.object [("label", .string "Red"), ("name", .string "rgb.red"), ("type", .string "number"),
    ("default", .number (.finite 255))]]

/-- The file of the control. -/
def redContent : String :=
  "plug:\n  http:\n    controls:\n      - label: Red\n        name: rgb.red\n" ++
    "        type: number\n        default: 255\n"

/-- A plug without controls. -/
def barePlug : Device where
  externalId := "plug"
  name := .value "Plug"
  type := .value .plug
  brand := .value .shelly
  transportProtocol := .value .http

/-- The default of the dotted name is stored below `rgb`. The next reconciliation wants to remove
`rgb` and to set `rgb.red`, which the database refuses. -/
theorem dotted_name_not_reconciled :
    ∃ (config : DeviceConfig) (reconciled : Device),
      @parseFile .unused (.reading ⟨plugDocument redItems, rfl⟩) "shelly.yaml" redContent =
        .ok [config] ∧
      barePlug.configKey = config.key ∧
      reconcileDevice (fun _ => true) config barePlug = some reconciled ∧
      reconciled.controls.lookup "rgb.red" = none ∧
      (reconciled.controls.lookup "rgb").isSome = true ∧
      reconcileDevice (fun _ => true) config reconciled = none ∧
      ¬ Reconciles config barePlug ((reconcileDevice (fun _ => true) config barePlug).getD barePlug)
        := by
  refine ⟨_, _, rfl, rfl, rfl, by decide +kernel, by decide +kernel, by decide +kernel,
    fun h => ?_⟩
  have hsettled := h.settled .controls List.mem_cons_self
  revert hsettled
  decide +kernel

end MyHomeHub.DevicesService
