import MyHomeHub.DeviceConfigs.Schema

/-!
# Storing parsed configs

The parser and the schema describe the same format twice. Here the two are compared: for
an item of a file, the fields it declares are traced through the parser to the casts and
the validators of the schema, which gives the exact shape a file must have to be stored.
-/

namespace MyHomeHub.ConfigSchema

open JavaScript Library ConfigsParser

/-! ## The casts by the shape of a value -/

/-- The shapes that can be cast to the type of a field. -/
def castableShape : FieldRules where
  text value := value.isObject = false
  number value := value.isNullish = true ∨ value = .string "" ∨
    (value.isObject = false ∧ value.toNumber ≠ .nan)
  flag value := value.isNullish = true ∨ value ∈ convertToTrue ∨ value ∈ convertToFalse

/-- The shapes that have the type of a field already. -/
def typedShape : FieldRules where
  text value := value.isNullish = true ∨ ∃ s, value = .string s
  number value := value.isNullish = true ∨ ∃ n, value = .number n ∧ n ≠ .nan
  flag value := value.isNullish = true ∨ ∃ b, value = .bool b

section Shapes

variable [SchemaCasts] [LawfulSchemaCasts]

/-- What can be cast to a string: everything but objects and arrays. -/
theorem castable_text_iff {value : Value} :
    castable.text value ↔ castableShape.text value := by
  show (SchemaCasts.castString value).isSome = true ↔ value.isObject = false
  cases hobject : value.isObject with
  | true => simp [LawfulSchemaCasts.string_object value hobject]
  | false =>
      cases hnullish : value.isNullish with
      | true => simp [LawfulSchemaCasts.string_nullish value hnullish]
      | false => simp [LawfulSchemaCasts.string_primitive value hnullish hobject]

/-- What can be cast to a number: the primitives with a numeric value, and the empty string. -/
theorem castable_number_iff {value : Value} :
    castable.number value ↔ castableShape.number value := by
  show (SchemaCasts.castNumber value).isSome = true ↔ _ ∨ _ ∨ _
  cases hnullish : value.isNullish with
  | true => simp [LawfulSchemaCasts.number_nullish value hnullish]
  | false =>
      cases hobject : value.isObject with
      | true =>
          have hne : value ≠ .string "" := by
            rintro rfl
            cases hobject
          simp [LawfulSchemaCasts.number_object value hobject, hne]
      | false =>
          by_cases hempty : value = .string ""
          · simp [hempty, LawfulSchemaCasts.number_empty]
          · by_cases hnan : value.toNumber = .nan
            · simp [LawfulSchemaCasts.number_nan value hnullish hempty hnan, hempty, hnan]
            · simp [LawfulSchemaCasts.number_primitive value hnullish hobject hempty hnan, hnan]

/-- What can be cast to a boolean: the listed values. -/
theorem castable_flag_iff {value : Value} :
    castable.flag value ↔ castableShape.flag value := by
  show (SchemaCasts.castBoolean value).isSome = true ↔ _ ∨ _ ∨ _
  by_cases hnullish : value.isNullish = true
  · simp [LawfulSchemaCasts.boolean_nullish value hnullish, hnullish]
  · by_cases htrue : value ∈ convertToTrue
    · simp [LawfulSchemaCasts.boolean_true value htrue, htrue]
    · by_cases hfalse : value ∈ convertToFalse
      · simp [LawfulSchemaCasts.boolean_false value hfalse, hfalse]
      · rw [Bool.not_eq_true] at hnullish
        simp [LawfulSchemaCasts.boolean_other value hnullish htrue hfalse, hnullish, htrue, hfalse]

/-- The documented casts succeed on the castable shapes. -/
theorem castable_eq : castable = castableShape := by
  ext value
  · exact castable_text_iff
  · exact castable_number_iff
  · exact castable_flag_iff

/-- The cast to a string leaves strings and absent values as they are. -/
theorem unchanged_text_iff {value : Value} :
    unchanged.text value ↔ typedShape.text value := by
  show SchemaCasts.castString value = some value ↔ value.isNullish = true ∨ _
  cases value with
  | undefined => simp [LawfulSchemaCasts.string_nullish .undefined rfl]
  | null => simp [LawfulSchemaCasts.string_nullish .null rfl]
  | bool b => simp [LawfulSchemaCasts.string_primitive (.bool b) rfl rfl]
  | number n => simp [LawfulSchemaCasts.string_primitive (.number n) rfl rfl]
  | string s => simp [LawfulSchemaCasts.string_primitive (.string s) rfl rfl]
  | array elements => simp [LawfulSchemaCasts.string_object (.array elements) rfl, Value.isNullish]
  | object fields => simp [LawfulSchemaCasts.string_object (.object fields) rfl, Value.isNullish]

/-- The cast to a number leaves numbers and absent values as they are. -/
theorem unchanged_number_iff {value : Value} :
    unchanged.number value ↔ typedShape.number value := by
  show SchemaCasts.castNumber value = some value ↔ value.isNullish = true ∨ _
  cases value with
  | undefined => simp [LawfulSchemaCasts.number_nullish .undefined rfl]
  | null => simp [LawfulSchemaCasts.number_nullish .null rfl]
  | bool b => simp [LawfulSchemaCasts.number_primitive (.bool b) rfl rfl nofun nofun]
  | number n =>
      by_cases hnan : n = .nan
      · subst hnan
        simp [LawfulSchemaCasts.number_nan (.number .nan) rfl nofun rfl]
      · simp [LawfulSchemaCasts.number_primitive (.number n) rfl rfl nofun hnan, hnan]
  | string s =>
      by_cases hempty : Value.string s = .string ""
      · simp [hempty, LawfulSchemaCasts.number_empty]
      · by_cases hnan : (Value.string s).toNumber = .nan
        · simp [LawfulSchemaCasts.number_nan (.string s) rfl hempty hnan]
        · simp [LawfulSchemaCasts.number_primitive (.string s) rfl rfl hempty hnan]
  | array elements => simp [LawfulSchemaCasts.number_object (.array elements) rfl, Value.isNullish]
  | object fields => simp [LawfulSchemaCasts.number_object (.object fields) rfl, Value.isNullish]

/-- The cast to a boolean leaves booleans and absent values as they are. -/
theorem unchanged_flag_iff {value : Value} :
    unchanged.flag value ↔ typedShape.flag value := by
  show SchemaCasts.castBoolean value = some value ↔ value.isNullish = true ∨ _
  by_cases hnullish : value.isNullish = true
  · simp [LawfulSchemaCasts.boolean_nullish value hnullish, hnullish]
  · have hresult : ∀ result, SchemaCasts.castBoolean value = some result →
        ∃ b, result = .bool b := by
      intro result hcast
      by_cases htrue : value ∈ convertToTrue
      · rw [LawfulSchemaCasts.boolean_true value htrue] at hcast
        exact ⟨true, (Option.some.inj hcast).symm⟩
      · by_cases hfalse : value ∈ convertToFalse
        · rw [LawfulSchemaCasts.boolean_false value hfalse] at hcast
          exact ⟨false, (Option.some.inj hcast).symm⟩
        · rw [LawfulSchemaCasts.boolean_other value (by simpa using hnullish) htrue hfalse] at hcast
          cases hcast
    constructor
    · exact fun hcast => .inr (hresult value hcast)
    · intro h
      rcases h with hnullish' | ⟨b, rfl⟩
      · exact absurd hnullish' hnullish
      · cases b with
        | true => exact LawfulSchemaCasts.boolean_true _ (by decide)
        | false => exact LawfulSchemaCasts.boolean_false _ (by decide)

/-- The documented casts leave values of the right type as they are. -/
theorem unchanged_eq : unchanged = typedShape := by
  ext value
  · exact unchanged_text_iff
  · exact unchanged_number_iff
  · exact unchanged_flag_iff

/-- A required string is present after the cast when there is a value that is not empty. -/
theorem is_present_cast_iff {value cast : Value} (h : SchemaCasts.castString value = some cast) :
    isPresent cast = true ↔ value.isNullish = false ∧ value ≠ .string "" := by
  cases value with
  | undefined =>
      rw [LawfulSchemaCasts.string_nullish .undefined rfl] at h
      cases h
      simp [isPresent]
  | null =>
      rw [LawfulSchemaCasts.string_nullish .null rfl] at h
      cases h
      simp [isPresent]
  | bool b =>
      rw [LawfulSchemaCasts.string_primitive (.bool b) rfl rfl] at h
      cases h
      cases b <;> simp [isPresent]
  | number n =>
      rw [LawfulSchemaCasts.string_primitive (.number n) rfl rfl] at h
      cases h
      show isPresent (.string n.toString) = true ↔ _
      rw [is_present_string]
      simpa using n.to_string_ne_empty
  | string s =>
      rw [LawfulSchemaCasts.string_primitive (.string s) rfl rfl] at h
      cases h
      show isPresent (.string s) = true ↔ _
      rw [is_present_string]
      simp
  | array elements =>
      rw [LawfulSchemaCasts.string_object (.array elements) rfl] at h
      cases h
  | object fields =>
      rw [LawfulSchemaCasts.string_object (.object fields) rfl] at h
      cases h

end Shapes

/-! ## The declarations of a file -/

/-- The values that an item of a file lists and the parser keeps. -/
def listedValues (raw : Value) : List Value :=
  match raw.property "values" with
  | .array values => values.filter fun value => (normalizeItemValue value).isSome
  | _ => []

/-- A constraint obeys the rule of its type. -/
def ConstraintObeys (rules : FieldRules) (constraint : String × Value) : Prop :=
  match constraint.1 with
  | "integer" => rules.flag constraint.2
  | "pattern" | "format" => rules.text constraint.2
  | _ => rules.number constraint.2

/-- The fields that an item of a file declares obey the rules of their types. -/
structure DeclarationObeys (rules : FieldRules) (raw : Value) (type : DeviceConfigItemType) :
    Prop where
  label : rules.text (raw.property "label")
  name : rules.text (raw.property "name")
  description : rules.text (raw.property "description")
  path : rules.text (raw.property "path")
  /-- Constraints that do not apply to the type are no fields. -/
  constraints : ∀ constraint ∈ (raw.property "constraints").entries,
    keepsConstraint type constraint = true → ConstraintObeys rules constraint
  values : ∀ value ∈ listedValues raw,
    rules.text (value.property "label") ∧ rules.text (value.property "path")

/-- Absent fields obey the rules. -/
structure AllowsAbsent (rules : FieldRules) : Prop where
  text : rules.text .undefined
  number : rules.number .undefined
  flag : rules.flag .undefined

theorem castable_shape_allows_absent : AllowsAbsent castableShape :=
  ⟨rfl, .inl rfl, .inl rfl⟩

theorem typed_shape_allows_absent : AllowsAbsent typedShape :=
  ⟨.inl rfl, .inl rfl, .inl rfl⟩

/-- The constraints that are kept have different names. -/
theorem kept_nodup {rawConstraints : Value} (h : rawConstraints.hasUniqueKeys = true)
    (type : DeviceConfigItemType) :
    ((rawConstraints.entries.filter (keepsConstraint type)).map (·.1)).Nodup :=
  (Value.entries_nodup h).sublist (List.filter_sublist.map _)

/-- A field of the normalized constraints is a constraint that was kept, or it is absent. -/
theorem property_kept_obeys {rules : FieldRules} {kept : List (String × Value)} {name : String}
    (hkept : ∀ constraint ∈ kept, ConstraintObeys rules constraint)
    (habsent : ConstraintObeys rules (name, .undefined)) :
    ConstraintObeys rules (name, (Value.object kept).property name) := by
  show ConstraintObeys rules (name, .ofOption (kept.lookup name))
  cases hlookup : kept.lookup name with
  | none => exact habsent
  | some value => exact hkept (name, value) (Value.mem_of_lookup hlookup)

/-- The normalized constraints obey the rules when the declared ones that apply do. -/
theorem constraints_obey_iff {rules : FieldRules} (habsent : AllowsAbsent rules)
    {rawConstraints : Value} (hunique : rawConstraints.hasUniqueKeys = true)
    {type : DeviceConfigItemType} :
    (∀ constraints ∈ normalizeConstraints rawConstraints type,
        ConstraintsObey rules constraints) ↔
      ∀ constraint ∈ rawConstraints.entries, keepsConstraint type constraint = true →
        ConstraintObeys rules constraint := by
  have hnodup := kept_nodup hunique type
  unfold normalizeConstraints
  dsimp only
  generalize hkept : rawConstraints.entries.filter (keepsConstraint type) = kept at hnodup ⊢
  have hmem (constraint : String × Value) : constraint ∈ kept ↔
      constraint ∈ rawConstraints.entries ∧ keepsConstraint type constraint = true := by
    rw [← hkept, List.mem_filter]
  have hgoal : (∀ constraint ∈ rawConstraints.entries, keepsConstraint type constraint = true →
      ConstraintObeys rules constraint) ↔
        ∀ constraint ∈ kept, ConstraintObeys rules constraint := by
    simp only [hmem, and_imp]
  rw [hgoal]
  split_ifs with hnone
  · -- no constraints are kept, so there is nothing to obey on either side
    refine iff_of_true nofun fun constraint hconstraint => ?_
    rw [Bool.or_eq_true, Bool.not_eq_true'] at hnone
    rcases hnone with hobject | hempty
    · have hentry := ((hmem constraint).mp hconstraint).1
      rw [Value.entries_of_not_object hobject] at hentry
      cases hentry
    · rw [List.isEmpty_iff.mp hempty] at hconstraint
      cases hconstraint
  · simp only [Option.mem_def, Option.some.injEq, forall_eq']
    refine ⟨fun hobey => ?_, fun hobey => ?_⟩
    · intro constraint hconstraint
      obtain ⟨name, value⟩ := constraint
      have hproperty : (Value.object kept).property name = value := by
        show Value.ofOption (kept.lookup name) = value
        rw [Value.lookup_of_mem hnodup hconstraint, Value.of_option_some]
      have happlies : name ∈ applicableConstraints type := by
        have hkeeps := ((hmem _).mp hconstraint).2
        rw [keepsConstraint, Bool.and_eq_true, List.contains_iff_mem] at hkeeps
        exact hkeeps.1
      rw [← hproperty]
      -- every applicable name is a field of the constraints
      cases type with
      | number =>
          rcases List.mem_cons.mp happlies with rfl | happlies
          · exact hobey.min
          rcases List.mem_cons.mp happlies with rfl | happlies
          · exact hobey.max
          rw [List.mem_singleton.mp happlies]
          exact hobey.integer
      | string =>
          rcases List.mem_cons.mp happlies with rfl | happlies
          · exact hobey.minLength
          rcases List.mem_cons.mp happlies with rfl | happlies
          · exact hobey.maxLength
          rcases List.mem_cons.mp happlies with rfl | happlies
          · exact hobey.pattern
          rw [List.mem_singleton.mp happlies]
          exact hobey.format
      | boolean => cases happlies
      | enum => cases happlies
      | object => cases happlies
    · exact ⟨@property_kept_obeys rules kept "min" hobey habsent.number,
        @property_kept_obeys rules kept "max" hobey habsent.number,
        @property_kept_obeys rules kept "integer" hobey habsent.flag,
        @property_kept_obeys rules kept "minLength" hobey habsent.number,
        @property_kept_obeys rules kept "maxLength" hobey habsent.number,
        @property_kept_obeys rules kept "pattern" hobey habsent.text,
        @property_kept_obeys rules kept "format" hobey habsent.text⟩

/-- A listed value is kept with its label, its name as a string and its path. -/
theorem normalize_item_value_some {value : Value} {itemValue : DeviceConfigItemValue}
    (h : normalizeItemValue value = some itemValue) :
    itemValue.label = value.property "label" ∧
      itemValue.name = (value.property "name").toString ∧
      itemValue.path = value.property "path" := by
  unfold normalizeItemValue at h
  dsimp only at h
  split at h
  · cases h
    exact ⟨rfl, rfl, rfl⟩
  · cases h

/-- Every listed value is kept. -/
theorem normalize_listed_value {raw value : Value} (h : value ∈ listedValues raw) :
    ∃ itemValue, normalizeItemValue value = some itemValue := by
  unfold listedValues at h
  split at h
  · exact Option.isSome_iff_exists.mp (List.mem_filter.mp h).2
  · cases h

/-- The values of an item come from the listed values that are kept. -/
theorem forall_item_values {raw : Value} {p : DeviceConfigItemValue → Prop} :
    (∀ list ∈ normalizeItemValues (raw.property "values"), ∀ itemValue ∈ list, p itemValue) ↔
      ∀ value ∈ listedValues raw, ∀ itemValue ∈ normalizeItemValue value, p itemValue := by
  unfold normalizeItemValues listedValues
  cases raw.property "values" with
  | array values =>
      simp only [List.mem_filter, Option.isSome_iff_exists]
      refine ⟨fun h value hvalue itemValue hitem => ?_, fun h list hlist itemValue hitem => ?_⟩
      · have hne : values.isEmpty = false := by
          cases values with
          | nil => cases hvalue.1
          | cons first rest => rfl
        rw [hne] at h
        exact h _ rfl itemValue (List.mem_filterMap.mpr ⟨value, hvalue.1, hitem⟩)
      · split at hlist
        · cases hlist
        · cases hlist
          obtain ⟨value, hvalue, hsome⟩ := List.mem_filterMap.mp hitem
          exact h value ⟨hvalue, itemValue, hsome⟩ itemValue hsome
  | _ =>
      refine iff_of_true (fun list hlist => ?_) (fun value hvalue => ?_)
      · cases hlist
      · cases hvalue

/-- The item that the parser makes of a declaration obeys the rules when the declaration does. -/
theorem item_obeys_iff {rules : FieldRules} (habsent : AllowsAbsent rules) {raw : Value}
    (hunique : raw.hasUniqueKeys = true) {type : DeviceConfigItemType} {default : Value} :
    ItemObeys rules { declaredItem raw type with default } ↔ DeclarationObeys rules raw type := by
  have hconstraints := @constraints_obey_iff rules habsent _
    (Value.unique_keys_of_property hunique "constraints") type
  have hvalues : (∀ list ∈ normalizeItemValues (raw.property "values"), ∀ itemValue ∈ list,
      rules.text itemValue.label ∧ rules.text itemValue.path) ↔ ∀ value ∈ listedValues raw,
        rules.text (value.property "label") ∧ rules.text (value.property "path") := by
    rw [forall_item_values]
    refine forall₂_congr fun value hvalue => ?_
    obtain ⟨itemValue, hsome⟩ := normalize_listed_value hvalue
    obtain ⟨hlabel, -, hpath⟩ := normalize_item_value_some hsome
    simp [hsome, hlabel, hpath]
  refine ⟨fun h => ?_, fun h => ?_⟩
  · exact ⟨h.label, h.name, h.description, h.path, hconstraints.mp h.constraints,
      hvalues.mp h.values⟩
  · exact ⟨h.label, h.name, h.description, h.path, hconstraints.mpr h.constraints,
      hvalues.mpr h.values⟩

/-! ## What can be stored -/

/-- A declared item has the shape that the schema asks for. -/
structure IsStorable (raw : Value) (type : DeviceConfigItemType) : Prop where
  fields : DeclarationObeys castableShape raw type
  /-- The listed values have labels that are not empty. -/
  labelled : ∀ value ∈ listedValues raw,
    (value.property "label").isNullish = false ∧ value.property "label" ≠ .string ""
  /-- The texts of their names are not empty. -/
  named : ∀ value ∈ listedValues raw, (value.property "name").toString ≠ ""

section Stored

variable [SchemaCasts] [LawfulSchemaCasts] {raw : Value} {type : DeviceConfigItemType}

omit [SchemaCasts] [LawfulSchemaCasts] in
/-- The name and the label of a declared item are not empty. -/
theorem present_of_declared_type (h : declaredType raw = some type) {field : String}
    (hfield : field = "name" ∨ field = "label") :
    (raw.property field).isNullish = false ∧ raw.property field ≠ .string "" := by
  have htruthy : (raw.property field).truthy = true := by
    unfold declaredType at h
    split_ifs at h with hskipped
    simp only [Bool.or_eq_true, Bool.not_eq_true', not_or, Bool.not_eq_false] at hskipped
    rcases hfield with rfl | rfl
    · exact hskipped.1.2
    · exact hskipped.2
  refine ⟨?_, fun hempty => ?_⟩
  · cases hvalue : raw.property field <;> first | rfl | simp [hvalue, Value.truthy] at htruthy
  · simp [hempty, Value.truthy] at htruthy

/-- A format that is kept is a format of the schema after the cast. -/
theorem valid_constraints_of_cast {rawConstraints : Value}
    {constraints cast : DeviceConfigItemConstraints}
    (h : normalizeConstraints rawConstraints type = some constraints)
    (hcast : castConstraints constraints = some cast) : areValidConstraints cast = true := by
  have hformat := (cast_constraints_some_iff.mp hcast).2.2.2.2.2.2
  unfold normalizeConstraints at h
  dsimp only at h
  split_ifs at h
  cases h
  unfold areValidConstraints
  unfold Value.property at hformat
  cases hlookup : (rawConstraints.entries.filter (keepsConstraint type)).lookup "format" with
  | none =>
      simp only [hlookup, Value.of_option_none,
        LawfulSchemaCasts.string_nullish .undefined rfl, Option.some.injEq] at hformat
      rw [← hformat]
      rfl
  | some value =>
      simp only [hlookup, Value.of_option_some] at hformat
      have hkeeps := (List.mem_filter.mp (Value.mem_of_lookup hlookup)).2
      rw [keepsConstraint, Bool.and_eq_true] at hkeeps
      have hknown : (toEnumValue DeviceConfigItemFormat.values DeviceConfigItemFormat.text
          (.string value.toString)).isSome = true := by
        simpa using hkeeps.2
      -- the parser compares the text of the format, and the cast stores just that text
      cases hnullish : value.isNullish with
      | true =>
          rw [LawfulSchemaCasts.string_nullish value hnullish, Option.some.injEq] at hformat
          rw [← hformat, hnullish, Bool.true_or]
      | false =>
          cases hobject : value.isObject with
          | true =>
              rw [LawfulSchemaCasts.string_object value hobject] at hformat
              cases hformat
          | false =>
              rw [LawfulSchemaCasts.string_primitive value hnullish hobject,
                Option.some.injEq] at hformat
              rw [← hformat, hknown, Bool.or_true]

/-- A value is valid after the cast when its label and its name are not empty. -/
theorem valid_item_value_iff {itemValue cast : DeviceConfigItemValue}
    (h : castItemValue itemValue = some cast) :
    isValidItemValue cast = true ↔
      (itemValue.label.isNullish = false ∧ itemValue.label ≠ .string "") ∧
        itemValue.name ≠ "" := by
  obtain ⟨hlabel, -, hname⟩ := cast_item_value_some_iff.mp h
  rw [isValidItemValue, Bool.and_eq_true, is_present_cast_iff hlabel, hname, decide_eq_true_iff]

/-- The listed values of an item are valid after the cast when their labels and names are not
empty. -/
theorem valid_values_iff {cast : Option (List DeviceConfigItemValue)}
    (h : (normalizeItemValues (raw.property "values")).mapM
      (fun list : List DeviceConfigItemValue => list.mapM castItemValue) = some cast) :
    (cast.all fun list => list.all isValidItemValue) = true ↔
      ∀ value ∈ listedValues raw,
        ((value.property "label").isNullish = false ∧ value.property "label" ≠ .string "") ∧
          (value.property "name").toString ≠ "" := by
  let p (itemValue : DeviceConfigItemValue) : Prop :=
    (itemValue.label.isNullish = false ∧ itemValue.label ≠ .string "") ∧ itemValue.name ≠ ""
  calc (cast.all fun list => list.all isValidItemValue) = true
      ↔ ∀ list ∈ cast, ∀ itemValue ∈ list, isValidItemValue itemValue = true := by
        cases cast <;> simp
    _ ↔ ∀ list ∈ normalizeItemValues (raw.property "values"), ∀ itemValue ∈ list,
          p itemValue :=
        forall_option_result_iff h fun _ _ hlist =>
          forall_results_iff hlist fun _ _ hcast => valid_item_value_iff hcast
    _ ↔ ∀ value ∈ listedValues raw, ∀ itemValue ∈ normalizeItemValue value, p itemValue :=
        forall_item_values
    _ ↔ _ := by
        refine forall₂_congr fun value hvalue => ?_
        obtain ⟨itemValue, hsome⟩ := normalize_listed_value hvalue
        obtain ⟨hlabel, hname, -⟩ := normalize_item_value_some hsome
        simp [p, hsome, hlabel, hname]

/-- An item of a file can be stored exactly when its declaration has the right shape. -/
theorem stored_item_is_some_iff (htype : declaredType raw = some type)
    (hunique : raw.hasUniqueKeys = true) {default : Value} :
    (storedItem { declaredItem raw type with default }).isSome = true ↔ IsStorable raw type := by
  have hfields : (castItem { declaredItem raw type with default }).isSome = true ↔
      DeclarationObeys castableShape raw type := by
    rw [cast_item_is_some_iff, castable_eq]
    exact item_obeys_iff castable_shape_allows_absent hunique
  have hvalid {cast : DeviceConfigItem}
      (hcast : castItem { declaredItem raw type with default } = some cast) :
      isValidItem cast = true ↔ ∀ value ∈ listedValues raw,
        ((value.property "label").isNullish = false ∧ value.property "label" ≠ .string "") ∧
          (value.property "name").toString ≠ "" := by
    obtain ⟨hlabel, hname, -, -, hconstraints, hvalues, -⟩ := cast_item_some_iff.mp hcast
    -- of what the schema requires, only the listed values are not checked by the parser
    have hlabelled := (is_present_cast_iff hlabel).mpr (present_of_declared_type htype (.inr rfl))
    have hnamed := (is_present_cast_iff hname).mpr (present_of_declared_type htype (.inl rfl))
    have hformats : cast.constraints.all areValidConstraints = true := by
      have hmap : (normalizeConstraints (raw.property "constraints") type).mapM
          castConstraints = some cast.constraints := hconstraints
      cases hnormal : normalizeConstraints (raw.property "constraints") type with
      | none =>
          rw [hnormal] at hmap
          rw [← Option.some.inj hmap, Option.all_none]
      | some constraints =>
          rw [hnormal, Option.mapM_some] at hmap
          obtain ⟨mapped, hmapped, hsome⟩ := Option.map_eq_some_iff.mp hmap
          rw [← hsome, Option.all_some]
          exact valid_constraints_of_cast hnormal hmapped
    rw [isValidItem, hlabelled, hnamed, hformats, Bool.true_and, Bool.true_and,
      Bool.true_and, valid_values_iff hvalues]
  rw [storedItem, Option.isSome_iff_exists]
  simp only [Option.filter_eq_some_iff]
  refine ⟨fun hstored => ?_, fun hstorable => ?_⟩
  · obtain ⟨cast, hcast, hitem⟩ := hstored
    have hvalues := (hvalid hcast).mp hitem
    exact ⟨hfields.mp (Option.isSome_of_mem hcast), fun value hvalue => (hvalues value hvalue).1,
      fun value hvalue => (hvalues value hvalue).2⟩
  · obtain ⟨cast, hcast⟩ := Option.isSome_iff_exists.mp (hfields.mpr hstorable.fields)
    refine ⟨cast, hcast, (hvalid hcast).mpr fun value hvalue => ?_⟩
    exact ⟨hstorable.labelled value hvalue, hstorable.named value hvalue⟩

end Stored

/-! ## Parsed configs -/

section Parsed

variable [ExternalCalls] [SchemaCasts]

omit [ExternalCalls] in
/-- A config can be stored when each of its items can. -/
theorem stored_config_is_some_iff {config : DeviceConfig} :
    (storedConfig config).isSome = true ↔
      ∀ payloadSection, ∀ items ∈ config.items payloadSection, ∀ item ∈ items,
        (storedItem item).isSome = true := by
  have hsection (items : Option (List DeviceConfigItem)) :
      (storedSection items).isSome = true ↔
        ∀ list ∈ items, ∀ item ∈ list, (storedItem item).isSome = true := by
    simp only [storedSection, option_map_m_is_some_iff, map_m_is_some_iff]
  refine ⟨fun h payloadSection => ?_, fun h => ?_⟩
  · obtain ⟨stored, hstored⟩ := Option.isSome_iff_exists.mp h
    simp only [storedConfig, bind, Option.bind_eq_some_iff] at hstored
    obtain ⟨commands, hcommands, controls, hcontrols, measurements, hmeasurements, -⟩ := hstored
    cases payloadSection with
    | commands => exact (hsection _).mp (Option.isSome_of_mem hcommands)
    | controls => exact (hsection _).mp (Option.isSome_of_mem hcontrols)
    | measurements => exact (hsection _).mp (Option.isSome_of_mem hmeasurements)
  · obtain ⟨commands, hcommands⟩ :=
      Option.isSome_iff_exists.mp ((hsection config.commands).mpr (h .commands))
    obtain ⟨controls, hcontrols⟩ :=
      Option.isSome_iff_exists.mp ((hsection config.controls).mpr (h .controls))
    obtain ⟨measurements, hmeasurements⟩ :=
      Option.isSome_iff_exists.mp ((hsection config.measurements).mpr (h .measurements))
    rw [storedConfig, hcommands, hcontrols, hmeasurements]
    rfl

omit [ExternalCalls] in
/-- A config that can be stored is stored as it is when the casts leave its items as they are. -/
theorem stored_config_eq_self_iff {config : DeviceConfig}
    (hstrict : config.strict = some config.isStrict)
    (hstored : (storedConfig config).isSome = true) :
    storedConfig config = some config ↔
      ∀ payloadSection, ∀ items ∈ config.items payloadSection, ∀ item ∈ items,
        ItemObeys unchanged item := by
  have hitem {item : DeviceConfigItem} (h : (storedItem item).isSome = true) :
      storedItem item = some item ↔ ItemObeys unchanged item := by
    rw [storedItem, Option.filter_eq_some_iff, cast_item_eq_self_iff, and_iff_left_iff_imp]
    intro hunchanged
    obtain ⟨cast, hcast⟩ := Option.isSome_iff_exists.mp h
    rw [storedItem, Option.filter_eq_some_iff, cast_item_eq_self_iff.mpr hunchanged,
      Option.some.injEq] at hcast
    exact hcast.1 ▸ hcast.2
  have hall : (∀ payloadSection, storedSection (config.items payloadSection) =
      some (config.items payloadSection)) ↔ ∀ payloadSection,
        ∀ items ∈ config.items payloadSection, ∀ item ∈ items, ItemObeys unchanged item := by
    refine forall_congr' fun payloadSection => ?_
    rw [storedSection, option_map_m_eq_self_iff]
    refine forall₂_congr fun items hitems => ?_
    rw [map_m_eq_self_iff]
    refine forall₂_congr fun item hmem => hitem ?_
    exact stored_config_is_some_iff.mp hstored payloadSection items hitems item hmem
  rw [← hall]
  refine ⟨fun h payloadSection => ?_, fun h => ?_⟩
  · simp only [storedConfig, bind, Option.bind_eq_some_iff, pure, Option.some.injEq] at h
    obtain ⟨commands, hcommands, controls, hcontrols, measurements, hmeasurements, hsame⟩ := h
    cases payloadSection with
    | commands => exact hcommands.trans (congrArg some (congrArg DeviceConfig.commands hsame))
    | controls => exact hcontrols.trans (congrArg some (congrArg DeviceConfig.controls hsame))
    | measurements =>
        exact hmeasurements.trans (congrArg some (congrArg DeviceConfig.measurements hsame))
  · have hcommands : storedSection config.commands = some config.commands := h .commands
    have hcontrols : storedSection config.controls = some config.controls := h .controls
    have hmeasurements : storedSection config.measurements = some config.measurements :=
      h .measurements
    rw [storedConfig, hcommands, hcontrols, hmeasurements, ← hstrict]
    rfl

variable [YamlCalls]

omit [ExternalCalls] [SchemaCasts] in
/-- The items of a file have unique keys. -/
theorem unique_keys_of_raw_item {fileContent : String} {declared : DeclaredBlock}
    (hdeclared : declared ∈ declaredBlocks fileContent) {payloadSection : DeviceConfigSection}
    {raw : Value} (hraw : raw ∈ rawItems declared.block payloadSection) :
    raw.hasUniqueKeys = true := by
  have hblock : declared.block.hasUniqueKeys = true := by
    unfold declaredBlocks at hdeclared
    cases hparse : safeParseYaml fileContent with
    | none =>
        rw [hparse] at hdeclared
        cases hdeclared
    | some document =>
        rw [hparse] at hdeclared
        obtain ⟨entry, hentry, htype⟩ := List.mem_flatMap.mp hdeclared
        have hprotocols := Value.unique_keys_of_entry document.2 hentry
        unfold typeBlocks at htype
        split at htype
        · cases htype
        · split_ifs at htype
          · -- an absent block is read as an empty mapping
            obtain ⟨rawProtocol, hrawProtocol, hsome⟩ := List.mem_filterMap.mp htype
            obtain ⟨transportProtocol, -, rfl⟩ := Option.map_eq_some_iff.mp hsome
            have hunique := Value.unique_keys_of_entry hprotocols hrawProtocol
            show (Value.orElse _ _).hasUniqueKeys = true
            unfold Value.orElse
            split_ifs
            · rfl
            · exact hunique
          · cases htype
  have hsection := Value.unique_keys_of_property hblock payloadSection.text
  unfold rawItems at hraw
  split at hraw
  · rename_i elements helements
    rw [helements, Value.hasUniqueKeys] at hsection
    exact Value.unique_keys_of_element hsection hraw
  · cases hraw

variable [LawfulSchemaCasts]

/-- The configs of a file can be stored exactly when every item it declares has the shape that the
schema asks for. A file whose name is no brand declares none. -/
theorem parsed_configs_storable_iff {filePath fileContent : String} {configs : List DeviceConfig}
    (hparse : parseFile filePath fileContent = .ok configs) :
    (∀ config ∈ configs, (storedConfig config).isSome = true) ↔
      ((extractBrandFromFilename filePath).isSome = true →
        ∀ declared ∈ declaredBlocks fileContent, ∀ payloadSection,
          ∀ raw ∈ rawItems declared.block payloadSection, ∀ type ∈ declaredType raw,
            IsStorable raw type) := by
  have hconfig {brand : DeviceBrand} {declared : DeclaredBlock}
      (hdeclared : declared ∈ declaredBlocks fileContent) {config : DeviceConfig}
      (hbuild : buildDeclared brand declared = .ok config) :
      (storedConfig config).isSome = true ↔ ∀ payloadSection,
        ∀ raw ∈ rawItems declared.block payloadSection, ∀ type ∈ declaredType raw,
          IsStorable raw type := by
    rw [stored_config_is_some_iff]
    refine forall_congr' fun payloadSection => ?_
    obtain ⟨items, hitems, hnormalized⟩ := (build_config_ok hbuild).2 payloadSection
    rw [hitems]
    refine ⟨fun hstored raw hraw type htype => ?_, fun hstorable list hlist item hitem => ?_⟩
    · obtain ⟨default, hdefault⟩ := exists_normalized hnormalized hraw htype
      exact (stored_item_is_some_iff htype (unique_keys_of_raw_item hdeclared hraw)).mp
        (hstored items rfl _ hdefault)
    · cases hlist
      obtain ⟨raw, hraw, hnormal⟩ := (mem_normalize_items hnormalized).mp hitem
      obtain ⟨type, default, htype, -, rfl⟩ := normalize_item_some_iff.mp hnormal
      exact (stored_item_is_some_iff htype (unique_keys_of_raw_item hdeclared hraw)).mpr
        (hstorable raw hraw type htype)
  cases hbrand : extractBrandFromFilename filePath with
  | none =>
      rw [parseFile, hbrand] at hparse
      cases hparse
      refine iff_of_true (List.forall_mem_nil _) fun hsome => ?_
      cases hsome
  | some brand =>
      rw [parse_file_eq hbrand] at hparse
      refine ⟨fun hall _ declared hdeclared => ?_, fun hall config hmem => ?_⟩
      · obtain ⟨config, hmem, hbuild⟩ := exists_result hparse hdeclared
        exact (hconfig hdeclared hbuild).mp (hall config hmem)
      · obtain ⟨declared, hdeclared, hbuild⟩ := (mem_results hparse).mp hmem
        exact (hconfig hdeclared hbuild).mpr (hall rfl declared hdeclared)

end Parsed

theorem parsed_configs_storable_iff_switch :
    (@storedConfig .documented switchConfig).isSome = true := by
  have hparse : @parseFile .unused (.reading ⟨plugDocument [switchItem], rfl⟩) "shelly.yaml"
      switchContent = .ok [switchConfig] := rfl
  refine (@parsed_configs_storable_iff .unused .documented
    (.reading ⟨plugDocument [switchItem], rfl⟩) SchemaCasts.documented_lawful _ _ _ hparse).mpr
    (fun _ declared hdeclared payloadSection raw hraw type htype => ?_) switchConfig
    (List.mem_singleton_self _)
  obtain rfl := List.mem_singleton.mp hdeclared
  cases payloadSection with
  | commands => cases hraw
  | measurements => cases hraw
  | controls =>
      obtain rfl := List.mem_singleton.mp hraw
      cases htype
      exact ⟨⟨rfl, rfl, rfl, rfl, nofun, nofun⟩, nofun, nofun⟩

/-- A switch with a label for each language. -/
def translatedItem : Value :=
  .object [("label", .object [("en", .string "On"), ("pl", .string "Wlacz")]),
    ("name", .string "on"), ("type", .string "boolean")]

/-- The file of the translated switch. -/
def translatedContent : String :=
  "plug:\n  http:\n    controls:\n      - label:\n          en: On\n          pl: Wlacz\n" ++
    "        name: on\n        type: boolean\n"

/-- The parser accepts the translated switch, and the schema rejects it. -/
theorem translated_switch_rejected :
    ∃ config, @parseFile .unused (.reading ⟨plugDocument [translatedItem], rfl⟩) "shelly.yaml"
        translatedContent = .ok [config] ∧
      @storedConfig .documented config = none :=
  ⟨_, rfl, rfl⟩

end MyHomeHub.ConfigSchema
