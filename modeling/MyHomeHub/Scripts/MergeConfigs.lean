import MyHomeHub.JavaScript.Value
import MyHomeHub.Library.Assignments

/-!
# Merging the Zigbee2MQTT configuration

`mergeConfigs` of `generate_z2m_secrets` writes the rendered configuration into the existing
one. Where both have a mapping the two are merged, and everywhere else the rendered value
takes the place of the existing one.

A configuration is a mapping whose scalars are null, Booleans, numbers and strings. Its keys
are ordinary: none is the name of a property that every object inherits.
-/

namespace MyHomeHub.GenerateZ2mSecrets

open JavaScript Library

/-- `isPlainObject` -/
def isPlainObject : Value → Bool
  | .object _ => true
  | _ => false

mutual
/-- The value of a key of the merged mapping, given the existing and the rendered value. -/
def mergeValue (existing : Option Value) : Value → Value
  | .object rendered =>
      match existing with
      | some (.object fields) => .object (mergeFields fields fields rendered)
      | _ => .object rendered
  | value => value

/-- The loop over the entries of the rendered mapping. -/
def mergeFields (existing merged : List (String × Value)) :
    List (String × Value) → List (String × Value)
  | [] => merged
  | (key, value) :: rest =>
      mergeFields existing (assign key (mergeValue (existing.lookup key) value) merged) rest
end

/-- A mapping of a configuration: no mapping in it has a key twice. -/
@[ext]
structure Mapping where
  fields : List (String × Value)
  unique : (Value.object fields).hasUniqueKeys = true

variable {existing rendered merged : List (String × Value)} {key : String} {value : Value}

/-! ## The loop -/

/-- After the loop the rendered keys have the merged values, and the others what they had. -/
theorem lookup_merge_fields (hrendered : (rendered.map (·.1)).Nodup) :
    (mergeFields existing merged rendered).lookup key =
      match rendered.lookup key with
      | some value => some (mergeValue (existing.lookup key) value)
      | none => merged.lookup key := by
  induction rendered generalizing merged with
  | nil => rfl
  | cons field rest ih =>
      obtain ⟨name, value⟩ := field
      rw [List.map_cons, List.nodup_cons] at hrendered
      rw [mergeFields, ih hrendered.2, List.lookup_cons]
      by_cases hname : key = name
      · cases hname
        have hrest : rest.lookup key = none := by
          rw [List.lookup_eq_none_iff]
          intro field hfield
          have hname : key ≠ field.1 := fun h =>
            hrendered.1 (List.mem_map.mpr ⟨field, hfield, h.symm⟩)
          exact bne_iff_ne.mpr hname
        rw [hrest, beq_self_eq_true]
        exact lookup_assign_self
      · rw [beq_false_of_ne hname, lookup_assign_other hname]

/-- A field of the result is of the mapping that is assigned to, or has a merged value. -/
theorem mem_merge_fields {field : String × Value}
    (hfield : field ∈ mergeFields existing merged rendered) :
    field ∈ merged ∨ ∃ value, (field.1, value) ∈ rendered ∧
      field.2 = mergeValue (existing.lookup field.1) value := by
  induction rendered generalizing merged with
  | nil => exact .inl hfield
  | cons first rest ih =>
      obtain ⟨name, value⟩ := first
      rw [mergeFields] at hfield
      rcases ih hfield with hmem | ⟨value, hvalue, heq⟩
      · rcases mem_of_mem_assign hmem with rfl | hmem
        · exact .inr ⟨value, List.mem_cons_self, rfl⟩
        · exact .inl hmem
      · exact .inr ⟨value, List.mem_cons_of_mem _ hvalue, heq⟩

theorem nodup_merge_fields (hmerged : (merged.map (·.1)).Nodup) :
    ((mergeFields existing merged rendered).map (·.1)).Nodup := by
  induction rendered generalizing merged with
  | nil => exact hmerged
  | cons first rest ih =>
      rw [mergeFields]
      exact ih (nodup_assign hmerged)

/-! ## One value -/

theorem merge_value_mappings {fields : List (String × Value)} :
    mergeValue (some (.object fields)) (.object rendered) =
      .object (mergeFields fields fields rendered) := by
  rw [mergeValue]

/-- A value that is not a mapping takes the place of any other. -/
theorem merge_value_leaf {existing : Option Value} (hleaf : isPlainObject value = false) :
    mergeValue existing value = value := by
  cases value with
  | object fields => cases hleaf
  | _ => rw [mergeValue]; intro fields h; cases h

/-- Where nothing or no mapping exists, the rendered value is taken. -/
theorem merge_value_new {existing : Option Value}
    (hexisting : ∀ fields, existing ≠ some (.object fields)) :
    mergeValue existing value = value := by
  cases value with
  | object rendered =>
      rw [mergeValue]
      exact hexisting
  | _ => exact merge_value_leaf rfl

/-- There is an existing mapping or there is none. -/
theorem mapping_or_not (existing : Option Value) :
    (∃ fields, existing = some (.object fields)) ∨
      ∀ fields, existing ≠ some (.object fields) := by
  by_cases h : ∃ fields, existing = some (.object fields)
  · exact .inl h
  · exact .inr fun fields heq => h ⟨fields, heq⟩

/-- What holds of a mapping if it holds of its values, and of what is no mapping, holds. -/
theorem mapping_induction {motive : Value → Prop}
    (mapping : ∀ fields, (∀ field ∈ fields, motive field.2) → motive (.object fields))
    (leaf : ∀ value, isPlainObject value = false → motive value) (value : Value) :
    motive value := by
  cases hvalue : isPlainObject value with
  | false => exact leaf value hvalue
  | true =>
      cases value with
      | object fields =>
          exact mapping fields fun field hfield => mapping_induction mapping leaf field.2
      | _ => cases hvalue
termination_by sizeOf value
decreasing_by exact Value.size_of_field hfield

/-- No mapping of the result has a key twice. -/
theorem unique_merge_value {existing : Option Value}
    (hexisting : ∀ other, existing = some other → other.hasUniqueKeys = true)
    (hvalue : value.hasUniqueKeys = true) :
    (mergeValue existing value).hasUniqueKeys = true := by
  induction value using mapping_induction generalizing existing with
  | leaf value hleaf => rwa [merge_value_leaf hleaf]
  | mapping rendered ih =>
      rcases mapping_or_not existing with ⟨fields, rfl⟩ | hnew
      · have hfields := hexisting _ rfl
        rw [merge_value_mappings]
        refine Value.unique_keys_of_fields
          (nodup_merge_fields (Value.nodup_of_unique_keys hfields)) fun field hfield => ?_
        rcases mem_merge_fields hfield with hmem | ⟨value, hmem, heq⟩
        · exact Value.unique_keys_of_entry hfields hmem
        · rw [heq]
          exact ih _ hmem (fun other hother =>
            Value.unique_keys_of_entry hfields (Value.mem_of_lookup hother))
            (Value.unique_keys_of_entry hvalue hmem)
      · rwa [merge_value_new hnew]

/-- `mergeConfigs` -/
def mergeConfigs (existing rendered : Mapping) : Mapping where
  fields := mergeFields existing.fields existing.fields rendered.fields
  unique := by
    have hmerged := @unique_merge_value (.object rendered.fields) (some (.object existing.fields))
      (fun other hother => Option.some.inj hother ▸ existing.unique) rendered.unique
    rwa [merge_value_mappings] at hmerged

/-! ## Merging again -/

/-- A loop that finds every rendered value merged already changes nothing. -/
theorem merge_fields_fixed
    (hfixed : ∀ field ∈ rendered, ∃ kept, existing.lookup field.1 = some kept ∧
      mergeValue (some kept) field.2 = kept) :
    mergeFields existing existing rendered = existing := by
  induction rendered with
  | nil => rfl
  | cons field rest ih =>
      obtain ⟨kept, hlookup, hkept⟩ := hfixed field List.mem_cons_self
      obtain ⟨name, value⟩ := field
      rw [mergeFields, hlookup, hkept, assign_of_lookup hlookup]
      exact ih fun other hother => hfixed other (List.mem_cons_of_mem _ hother)

/-- A value that is merged into itself is itself. -/
theorem merge_value_self (hvalue : value.hasUniqueKeys = true) :
    mergeValue (some value) value = value := by
  induction value using mapping_induction with
  | leaf value hleaf => exact merge_value_leaf hleaf
  | mapping fields ih =>
      rw [merge_value_mappings, merge_fields_fixed]
      intro field hfield
      exact ⟨field.2, Value.lookup_of_mem (Value.nodup_of_unique_keys hvalue) hfield,
        ih field hfield (Value.unique_keys_of_entry hvalue hfield)⟩

/-- A value that is merged a second time changes nothing. -/
theorem merge_value_again {existing : Option Value} (hvalue : value.hasUniqueKeys = true) :
    mergeValue (some (mergeValue existing value)) value = mergeValue existing value := by
  induction value using mapping_induction generalizing existing with
  | leaf value hleaf => rw [merge_value_leaf hleaf, merge_value_leaf hleaf]
  | mapping rendered ih =>
      rcases mapping_or_not existing with ⟨fields, rfl⟩ | hnew
      · have hnodup := Value.nodup_of_unique_keys hvalue
        rw [merge_value_mappings, merge_value_mappings, merge_fields_fixed]
        intro field hfield
        refine ⟨mergeValue (fields.lookup field.1) field.2, ?_,
          ih field hfield (Value.unique_keys_of_entry hvalue hfield)⟩
        rw [lookup_merge_fields hnodup, Value.lookup_of_mem hnodup hfield]
      · rw [merge_value_new hnew]
        exact merge_value_self hvalue

/-! ## Paths -/

/-- What a configuration has at a path of keys. -/
def reach : List String → Option Value → Option Value
  | [], value => value
  | key :: path, some (.object fields) => reach path (fields.lookup key)
  | _ :: _, _ => none

/-- A path is overridden if the rendered configuration has a value at it, or one that is no
mapping on the way to it. -/
def Overridden (rendered : Option Value) (path : List String) : Prop :=
  reach path rendered ≠ none ∨
    ∃ front leaf, front <+: path ∧ reach front rendered = some leaf ∧ isPlainObject leaf = false

/-- What the merged configuration has at the path at which these two have what they have. -/
def mergeOption (existing : Option Value) : Option Value → Option Value
  | some rendered => some (mergeValue existing rendered)
  | none => existing

/-- The result of merging has every leaf of the rendered configuration and a mapping where that
has one, every part of the existing configuration at a path that is not overridden, and nothing
else. -/
structure IsMergeOf (existing rendered merged : Value) : Prop where
  rendered_leaf : ∀ path leaf, isPlainObject leaf = false →
    reach path (some rendered) = some leaf → reach path (some merged) = some leaf
  rendered_mapping : ∀ path fields, reach path (some rendered) = some (.object fields) →
    ∃ others, reach path (some merged) = some (.object others)
  existing_part : ∀ path part, ¬ Overridden (some rendered) path →
    reach path (some existing) = some part → reach path (some merged) = some part
  nothing_else : ∀ path value, reach path (some merged) = some value →
    (¬ Overridden (some rendered) path ∧ reach path (some existing) = some value) ∨
    ∃ source, reach path (some rendered) = some source ∧
      isPlainObject source = isPlainObject value ∧
      (isPlainObject value = false → source = value)

variable {path front back : List String} {existing rendered : Option Value}

theorem reach_none : reach path none = none := by
  cases path <;> rfl

theorem reach_leaf (hleaf : isPlainObject value = false) (hpath : path ≠ []) :
    reach path (some value) = none := by
  cases path with
  | nil => exact absurd rfl hpath
  | cons key path =>
      cases value with
      | object fields => cases hleaf
      | _ => rfl

/-- A path is followed one key at a time. -/
theorem reach_cons : reach (key :: path) existing = reach path (reach [key] existing) := by
  match existing with
  | some (.object fields) => rfl
  | none | some .undefined | some .null | some (.bool _) | some (.number _) | some (.string _)
  | some (.array _) => exact reach_none.symm

theorem reach_append : reach (front ++ back) existing = reach back (reach front existing) := by
  induction front generalizing existing with
  | nil => rfl
  | cons key front ih => rw [List.cons_append, reach_cons, ih, ← reach_cons]

/-- The rendered configuration has unique keys, if there is one. -/
def UniqueKeys (rendered : Option Value) : Prop :=
  ∀ value, rendered = some value → value.hasUniqueKeys = true

/-- Below a rendered mapping the two are merged key by key. -/
theorem reach_merge_mapping {fields : List (String × Value)}
    (hunique : UniqueKeys (some (.object fields))) :
    reach (key :: path) (mergeOption existing (some (.object fields))) =
      reach path (mergeOption (reach [key] existing) (fields.lookup key)) := by
  have hnodup := Value.nodup_of_unique_keys (hunique _ rfl)
  show reach (key :: path) (some (mergeValue existing (.object fields))) = _
  rcases mapping_or_not existing with ⟨others, rfl⟩ | hnew
  · rw [merge_value_mappings]
    show reach path ((mergeFields others others fields).lookup key) = _
    rw [lookup_merge_fields hnodup]
    cases fields.lookup key <;> rfl
  · have hchild : reach [key] existing = none := by
      match existing with
      | some (.object others) => exact absurd rfl (hnew others)
      | none | some .undefined | some .null | some (.bool _) | some (.number _)
      | some (.string _) | some (.array _) => rfl
    rw [merge_value_new hnew, hchild]
    show reach path (fields.lookup key) = _
    cases fields.lookup key with
    | none => rfl
    | some value =>
        show _ = reach path (some (mergeValue none value))
        rw [merge_value_new fun fields h => by cases h]

theorem unique_keys_lookup {fields : List (String × Value)}
    (hunique : UniqueKeys (some (.object fields))) : UniqueKeys (fields.lookup key) :=
  fun _ hlookup => Value.unique_keys_of_entry (hunique _ rfl) (Value.mem_of_lookup hlookup)

/-- Where the rendered configuration has a value, the merged one has it merged. -/
theorem reach_rendered (hunique : UniqueKeys rendered) (hvalue : reach path rendered = some value) :
    reach path (mergeOption existing rendered) =
      some (mergeValue (reach path existing) value) := by
  induction path generalizing existing rendered with
  | nil =>
      cases hvalue
      rfl
  | cons key path ih =>
      match rendered, hvalue with
      | some (.object fields), hvalue =>
          rw [reach_merge_mapping hunique, ih (unique_keys_lookup hunique) hvalue, ← reach_cons]

/-- At a path that is not overridden nothing changes. -/
theorem reach_kept (hunique : UniqueKeys rendered) (hpath : ¬ Overridden rendered path) :
    reach path (mergeOption existing rendered) = reach path existing := by
  induction path generalizing existing rendered with
  | nil =>
      cases rendered with
      | none => rfl
      | some value => exact absurd (.inl (Option.some_ne_none value)) hpath
  | cons key path ih =>
      match rendered with
      | none => rfl
      | some (.object fields) =>
          rw [reach_merge_mapping hunique, ih (unique_keys_lookup hunique), ← reach_cons]
          rintro (hvalue | ⟨front, leaf, hfront, hleaf⟩)
          · exact hpath (.inl hvalue)
          · exact hpath (.inr ⟨key :: front, leaf, List.cons_prefix_cons.mpr ⟨rfl, hfront⟩, hleaf⟩)
      | some .undefined | some .null | some (.bool _) | some (.number _) | some (.string _)
      | some (.array _) =>
          exact absurd (.inr ⟨[], _, List.nil_prefix, rfl, rfl⟩) hpath

/-- A merged value is a mapping exactly if the rendered one is. -/
theorem is_plain_object_merge_value :
    isPlainObject (mergeValue existing value) = isPlainObject value := by
  rcases mapping_or_not existing with ⟨fields, rfl⟩ | hnew
  · cases value with
    | object rendered =>
        rw [merge_value_mappings]
        rfl
    | _ => rw [merge_value_leaf rfl]
  · rw [merge_value_new hnew]

/-! ## The result -/

theorem is_merge_of_merge_option {existing rendered : Value}
    (hunique : rendered.hasUniqueKeys = true) :
    IsMergeOf existing rendered (mergeValue (some existing) rendered) := by
  have hkeys : UniqueKeys (some rendered) := fun _ h => Option.some.inj h ▸ hunique
  have hrendered : ∀ path value, reach path (some rendered) = some value →
      reach path (some (mergeValue (some existing) rendered)) =
        some (mergeValue (reach path (some existing)) value) :=
    fun _ _ => reach_rendered hkeys
  have hkept : ∀ path, ¬ Overridden (some rendered) path →
      reach path (some (mergeValue (some existing) rendered)) = reach path (some existing) :=
    fun _ => reach_kept hkeys
  refine ⟨?_, ?_, ?_, ?_⟩
  · intro path leaf hleaf hpath
    rw [hrendered path leaf hpath, merge_value_leaf hleaf]
  · intro path fields hpath
    rw [hrendered path _ hpath]
    have hplain := @is_plain_object_merge_value (.object fields) (reach path (some existing))
    cases hmerged : mergeValue (reach path (some existing)) (.object fields) with
    | object others => exact ⟨others, rfl⟩
    | _ =>
        rw [hmerged] at hplain
        cases hplain
  · intro path part hpath hpart
    rw [hkept path hpath, hpart]
  · intro path value hvalue
    by_cases hpath : Overridden (some rendered) path
    · cases hsource : reach path (some rendered) with
      | some source =>
          rw [hrendered path source hsource] at hvalue
          cases hvalue
          refine .inr ⟨source, rfl, is_plain_object_merge_value.symm, fun hleaf => ?_⟩
          rw [is_plain_object_merge_value] at hleaf
          exact (merge_value_leaf hleaf).symm
      | none =>
          obtain hpath | ⟨front, leaf, ⟨back, rfl⟩, hfront, hleaf⟩ := hpath
          · exact absurd hsource hpath
          -- Below a leaf of the rendered configuration the merged one has nothing.
          · have hback : back ≠ [] := by
              rintro rfl
              rw [List.append_nil, hfront] at hsource
              cases hsource
            rw [reach_append, hrendered front leaf hfront, merge_value_leaf hleaf,
              reach_leaf hleaf hback] at hvalue
            cases hvalue
    · exact .inl ⟨hpath, hkept path hpath ▸ hvalue⟩

/-- Merging takes over the rendered configuration, keeps what it does not override, adds nothing
else, and does nothing a second time. -/
theorem merge_configs_keeps (existing rendered : Mapping) :
    IsMergeOf (.object existing.fields) (.object rendered.fields)
        (.object (mergeConfigs existing rendered).fields) ∧
      mergeConfigs (mergeConfigs existing rendered) rendered =
        mergeConfigs existing rendered := by
  refine ⟨?_, ?_⟩
  · have hmerge := @is_merge_of_merge_option (.object existing.fields) (.object rendered.fields)
      rendered.unique
    rwa [merge_value_mappings] at hmerge
  · have hagain := @merge_value_again (.object rendered.fields) (some (.object existing.fields))
      rendered.unique
    rw [merge_value_mappings, merge_value_mappings] at hagain
    exact Mapping.ext (Value.object.inj hagain)

end MyHomeHub.GenerateZ2mSecrets
