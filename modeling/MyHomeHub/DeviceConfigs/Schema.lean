import MyHomeHub.DeviceConfigs.Parser

/-!
# The device config schema

`DeviceConfigSchema`: what a config becomes when it is stored. The database layer casts
every field to the type the schema gives it and then runs the validators; an update with a
field that cannot be cast, or that breaks a validator, is rejected as a whole.

The casts are those of a third-party package, so they are a parameter, and
`LawfulSchemaCasts` is what its documentation says of them.
-/

namespace MyHomeHub

open JavaScript Library

/-- The casts of the schema types, each none when the value cannot be cast. -/
class SchemaCasts where
  castString : Value → Option Value
  castNumber : Value → Option Value
  castBoolean : Value → Option Value

/-- The values that are cast to true. -/
def convertToTrue : List Value :=
  [.bool true, .string "true", .number (.finite 1), .string "1", .string "yes"]

/-- The values that are cast to false. -/
def convertToFalse : List Value :=
  [.bool false, .string "false", .number (.finite 0), .string "0", .string "no"]

/-- What the casts are documented to do. Null and undefined stay as they are. -/
class LawfulSchemaCasts [SchemaCasts] : Prop where
  string_nullish : ∀ value, value.isNullish = true → SchemaCasts.castString value = some value
  /-- A primitive is cast to its text. -/
  string_primitive : ∀ value, value.isNullish = false → value.isObject = false →
    SchemaCasts.castString value = some (.string value.toString)
  string_object : ∀ value, value.isObject = true → SchemaCasts.castString value = none
  number_nullish : ∀ value, value.isNullish = true → SchemaCasts.castNumber value = some value
  number_empty : SchemaCasts.castNumber (.string "") = some .null
  /-- A primitive is cast to its numeric value. -/
  number_primitive : ∀ value, value.isNullish = false → value.isObject = false →
    value ≠ .string "" → value.toNumber ≠ .nan →
      SchemaCasts.castNumber value = some (.number value.toNumber)
  number_nan : ∀ value, value.isNullish = false → value ≠ .string "" → value.toNumber = .nan →
    SchemaCasts.castNumber value = none
  number_object : ∀ value, value.isObject = true → SchemaCasts.castNumber value = none
  boolean_nullish : ∀ value, value.isNullish = true → SchemaCasts.castBoolean value = some value
  boolean_true : ∀ value ∈ convertToTrue, SchemaCasts.castBoolean value = some (.bool true)
  boolean_false : ∀ value ∈ convertToFalse, SchemaCasts.castBoolean value = some (.bool false)
  boolean_other : ∀ value, value.isNullish = false → value ∉ convertToTrue →
    value ∉ convertToFalse → SchemaCasts.castBoolean value = none

/-- The documented cast to a string. -/
def documentedString (value : Value) : Option Value :=
  if value.isNullish then some value
  else if value.isObject then none
  else some (.string value.toString)

/-- The documented cast to a number. -/
def documentedNumber (value : Value) : Option Value :=
  if value.isNullish then some value
  else if value.isObject then none
  else if value = .string "" then some .null
  else if value.toNumber = .nan then none
  else some (.number value.toNumber)

/-- The documented cast to a boolean. -/
def documentedBoolean (value : Value) : Option Value :=
  if value.isNullish then some value
  else if value ∈ convertToTrue then some (.bool true)
  else if value ∈ convertToFalse then some (.bool false)
  else none

/-- Casts that do what is documented and nothing else. -/
@[reducible] def SchemaCasts.documented : SchemaCasts where
  castString := documentedString
  castNumber := documentedNumber
  castBoolean := documentedBoolean

theorem SchemaCasts.documented_lawful : @LawfulSchemaCasts .documented := by
  let casts := SchemaCasts.documented
  refine ⟨fun value h => if_pos h, fun value hnullish hobject => ?_, fun value h => ?_,
    fun value h => if_pos h, rfl, fun value hnullish hobject hempty hnan => ?_,
    fun value hnullish hempty hnan => ?_, fun value h => ?_, fun value h => if_pos h,
    by decide, by decide, fun value hnullish htrue hfalse => ?_⟩
  · show documentedString value = _
    simp [documentedString, hnullish, hobject]
  · cases value <;> first | rfl | cases h
  · show documentedNumber value = _
    simp [documentedNumber, hnullish, hobject, hempty, hnan]
  · show documentedNumber value = _
    simp [documentedNumber, hnullish, hempty, hnan]
  · cases value <;> first | rfl | cases h
  · show documentedBoolean value = _
    simp [documentedBoolean, hnullish, htrue, hfalse]

namespace ConfigSchema

open ConfigsParser

/-! ## Casting -/

section Casts

variable [SchemaCasts]

/-- `DeviceConfigItemValueSchema` -/
def castItemValue (itemValue : DeviceConfigItemValue) : Option DeviceConfigItemValue := do
  let label ← SchemaCasts.castString itemValue.label
  let path ← SchemaCasts.castString itemValue.path
  return { itemValue with label, path }

/-- `DeviceConfigItemConstraintsSchema` -/
def castConstraints (constraints : DeviceConfigItemConstraints) :
    Option DeviceConfigItemConstraints := do
  let min ← SchemaCasts.castNumber constraints.min
  let max ← SchemaCasts.castNumber constraints.max
  let integer ← SchemaCasts.castBoolean constraints.integer
  let minLength ← SchemaCasts.castNumber constraints.minLength
  let maxLength ← SchemaCasts.castNumber constraints.maxLength
  let pattern ← SchemaCasts.castString constraints.pattern
  let format ← SchemaCasts.castString constraints.format
  return { min, max, integer, minLength, maxLength, pattern, format }

/-- `DeviceConfigItemSchema`: the default of an item has any type. -/
def castItem (item : DeviceConfigItem) : Option DeviceConfigItem := do
  let label ← SchemaCasts.castString item.label
  let name ← SchemaCasts.castString item.name
  let description ← SchemaCasts.castString item.description
  let path ← SchemaCasts.castString item.path
  let constraints ← item.constraints.mapM castConstraints
  let values ← item.values.mapM fun values => values.mapM castItemValue
  return { item with label, name, description, path, constraints, values }

end Casts

/-! ## Validating -/

/-- A required string is there and not empty. -/
def isPresent : Value → Bool
  | .string s => s ≠ ""
  | _ => false

theorem is_present_string {s : String} : isPresent (.string s) = true ↔ s ≠ "" :=
  decide_eq_true_iff

/-- The validators of `DeviceConfigItemValueSchema`. -/
def isValidItemValue (itemValue : DeviceConfigItemValue) : Bool :=
  isPresent itemValue.label && itemValue.name ≠ ""

/-- The validators of `DeviceConfigItemConstraintsSchema`. -/
def areValidConstraints (constraints : DeviceConfigItemConstraints) : Bool :=
  constraints.format.isNullish ||
    (toEnumValue DeviceConfigItemFormat.values DeviceConfigItemFormat.text
      constraints.format).isSome

/-- The validators of `DeviceConfigItemSchema`. -/
def isValidItem (item : DeviceConfigItem) : Bool :=
  isPresent item.label && isPresent item.name && item.constraints.all areValidConstraints &&
    item.values.all fun values => values.all isValidItemValue

/-! ## Storing -/

section Storing

variable [SchemaCasts]

/-- What an item is stored as, or none when it is rejected. -/
def storedItem (item : DeviceConfigItem) : Option DeviceConfigItem :=
  (castItem item).filter isValidItem

/-- What a section is stored as. -/
def storedSection (items : Option (List DeviceConfigItem)) :
    Option (Option (List DeviceConfigItem)) :=
  items.mapM fun items => items.mapM storedItem

/-- What `updateOne` stores for a config, or none when it rejects the update. -/
def storedConfig (config : DeviceConfig) : Option DeviceConfig := do
  let commands ← storedSection config.commands
  let controls ← storedSection config.controls
  let measurements ← storedSection config.measurements
  return { config with strict := some config.isStrict, commands, controls, measurements }

end Storing

/-! ## Rules for the fields -/

/-- A rule for the fields of each schema type. -/
@[ext] structure FieldRules where
  text : Value → Prop
  number : Value → Prop
  flag : Value → Prop

/-- The constraints obey the rules of their types. -/
structure ConstraintsObey (rules : FieldRules) (constraints : DeviceConfigItemConstraints) :
    Prop where
  min : rules.number constraints.min
  max : rules.number constraints.max
  integer : rules.flag constraints.integer
  minLength : rules.number constraints.minLength
  maxLength : rules.number constraints.maxLength
  pattern : rules.text constraints.pattern
  format : rules.text constraints.format

/-- The fields of an item obey the rules of their types. -/
structure ItemObeys (rules : FieldRules) (item : DeviceConfigItem) : Prop where
  label : rules.text item.label
  name : rules.text item.name
  description : rules.text item.description
  path : rules.text item.path
  constraints : ∀ constraints ∈ item.constraints, ConstraintsObey rules constraints
  values : ∀ values ∈ item.values, ∀ itemValue ∈ values,
    rules.text itemValue.label ∧ rules.text itemValue.path

section CastRules

variable [SchemaCasts]

/-- The fields that can be cast. -/
def castable : FieldRules where
  text value := (SchemaCasts.castString value).isSome = true
  number value := (SchemaCasts.castNumber value).isSome = true
  flag value := (SchemaCasts.castBoolean value).isSome = true

/-- The fields that a cast leaves as they are. -/
def unchanged : FieldRules where
  text value := SchemaCasts.castString value = some value
  number value := SchemaCasts.castNumber value = some value
  flag value := SchemaCasts.castBoolean value = some value

variable {item cast : DeviceConfigItem}

/-- The fields of a cast item are the cast fields. -/
theorem cast_item_some_iff :
    castItem item = some cast ↔
      SchemaCasts.castString item.label = some cast.label ∧
      SchemaCasts.castString item.name = some cast.name ∧
      SchemaCasts.castString item.description = some cast.description ∧
      SchemaCasts.castString item.path = some cast.path ∧
      item.constraints.mapM castConstraints = some cast.constraints ∧
      item.values.mapM (fun values => values.mapM castItemValue) = some cast.values ∧
      cast.type = item.type ∧ cast.default = item.default ∧ cast.required = item.required := by
  simp only [castItem, bind, Option.bind_eq_some_iff, pure, Option.some.injEq]
  constructor
  · intro h
    obtain ⟨label, hlabel, name, hname, description, hdescription, path, hpath, constraints,
      hconstraints, values, hvalues, rfl⟩ := h
    exact ⟨hlabel, hname, hdescription, hpath, hconstraints, hvalues, rfl, rfl, rfl⟩
  · intro h
    obtain ⟨hlabel, hname, hdescription, hpath, hconstraints, hvalues, htype, hdefault,
      hrequired⟩ := h
    refine ⟨_, hlabel, _, hname, _, hdescription, _, hpath, _, hconstraints, _, hvalues, ?_⟩
    rw [← htype, ← hdefault, ← hrequired]

/-- The constraints of a cast item are the cast constraints. -/
theorem cast_constraints_some_iff {constraints cast : DeviceConfigItemConstraints} :
    castConstraints constraints = some cast ↔
      SchemaCasts.castNumber constraints.min = some cast.min ∧
      SchemaCasts.castNumber constraints.max = some cast.max ∧
      SchemaCasts.castBoolean constraints.integer = some cast.integer ∧
      SchemaCasts.castNumber constraints.minLength = some cast.minLength ∧
      SchemaCasts.castNumber constraints.maxLength = some cast.maxLength ∧
      SchemaCasts.castString constraints.pattern = some cast.pattern ∧
      SchemaCasts.castString constraints.format = some cast.format := by
  simp only [castConstraints, bind, Option.bind_eq_some_iff, pure, Option.some.injEq]
  constructor
  · intro h
    obtain ⟨min, hmin, max, hmax, integer, hinteger, minLength, hminLength, maxLength, hmaxLength,
      pattern, hpattern, format, hformat, rfl⟩ := h
    exact ⟨hmin, hmax, hinteger, hminLength, hmaxLength, hpattern, hformat⟩
  · intro h
    obtain ⟨hmin, hmax, hinteger, hminLength, hmaxLength, hpattern, hformat⟩ := h
    exact ⟨_, hmin, _, hmax, _, hinteger, _, hminLength, _, hmaxLength, _, hpattern, _, hformat,
      rfl⟩

/-- Constraints can be cast when each of them can. -/
theorem cast_constraints_is_some_iff {constraints : DeviceConfigItemConstraints} :
    (castConstraints constraints).isSome = true ↔ ConstraintsObey castable constraints := by
  rw [Option.isSome_iff_exists]
  simp only [cast_constraints_some_iff]
  constructor
  · intro h
    obtain ⟨cast, hmin, hmax, hinteger, hminLength, hmaxLength, hpattern, hformat⟩ := h
    exact ⟨Option.isSome_of_mem hmin, Option.isSome_of_mem hmax, Option.isSome_of_mem hinteger,
      Option.isSome_of_mem hminLength, Option.isSome_of_mem hmaxLength,
      Option.isSome_of_mem hpattern, Option.isSome_of_mem hformat⟩
  · intro h
    obtain ⟨hmin, hmax, hinteger, hminLength, hmaxLength, hpattern, hformat⟩ := h
    obtain ⟨min, hmin⟩ := Option.isSome_iff_exists.mp hmin
    obtain ⟨max, hmax⟩ := Option.isSome_iff_exists.mp hmax
    obtain ⟨integer, hinteger⟩ := Option.isSome_iff_exists.mp hinteger
    obtain ⟨minLength, hminLength⟩ := Option.isSome_iff_exists.mp hminLength
    obtain ⟨maxLength, hmaxLength⟩ := Option.isSome_iff_exists.mp hmaxLength
    obtain ⟨pattern, hpattern⟩ := Option.isSome_iff_exists.mp hpattern
    obtain ⟨format, hformat⟩ := Option.isSome_iff_exists.mp hformat
    exact ⟨⟨min, max, integer, minLength, maxLength, pattern, format⟩, hmin, hmax, hinteger,
      hminLength, hmaxLength, hpattern, hformat⟩

/-- A value of an enum item is cast field by field. -/
theorem cast_item_value_some_iff {itemValue cast : DeviceConfigItemValue} :
    castItemValue itemValue = some cast ↔
      SchemaCasts.castString itemValue.label = some cast.label ∧
      SchemaCasts.castString itemValue.path = some cast.path ∧ cast.name = itemValue.name := by
  simp only [castItemValue, bind, Option.bind_eq_some_iff, pure, Option.some.injEq]
  constructor
  · intro h
    obtain ⟨label, hlabel, path, hpath, rfl⟩ := h
    exact ⟨hlabel, hpath, rfl⟩
  · intro h
    obtain ⟨hlabel, hpath, hname⟩ := h
    exact ⟨_, hlabel, _, hpath, by rw [← hname]⟩

/-- A value of an enum item can be cast when its label and its path can. -/
theorem cast_item_value_is_some_iff {itemValue : DeviceConfigItemValue} :
    (castItemValue itemValue).isSome = true ↔
      castable.text itemValue.label ∧ castable.text itemValue.path := by
  rw [Option.isSome_iff_exists]
  simp only [cast_item_value_some_iff]
  constructor
  · intro h
    obtain ⟨cast, hlabel, hpath, -⟩ := h
    exact ⟨Option.isSome_of_mem hlabel, Option.isSome_of_mem hpath⟩
  · intro h
    obtain ⟨hlabel, hpath⟩ := h
    obtain ⟨label, hlabel⟩ := Option.isSome_iff_exists.mp hlabel
    obtain ⟨path, hpath⟩ := Option.isSome_iff_exists.mp hpath
    exact ⟨⟨label, itemValue.name, path⟩, hlabel, hpath, rfl⟩

/-- The values of an item can be cast when each of them can. -/
theorem cast_values_is_some_iff {values : Option (List DeviceConfigItemValue)} :
    (values.mapM fun list : List DeviceConfigItemValue => list.mapM castItemValue).isSome =
        true ↔
      ∀ list ∈ values, ∀ itemValue ∈ list,
        castable.text itemValue.label ∧ castable.text itemValue.path := by
  simp only [option_map_m_is_some_iff, map_m_is_some_iff, cast_item_value_is_some_iff]

/-- An item can be cast when each of its fields can. -/
theorem cast_item_is_some_iff : (castItem item).isSome = true ↔ ItemObeys castable item := by
  rw [Option.isSome_iff_exists]
  simp only [cast_item_some_iff]
  constructor
  · intro h
    obtain ⟨cast, hlabel, hname, hdescription, hpath, hconstraints, hvalues, -⟩ := h
    refine ⟨Option.isSome_of_mem hlabel, Option.isSome_of_mem hname,
      Option.isSome_of_mem hdescription, Option.isSome_of_mem hpath, ?_, ?_⟩
    · intro constraints hmem
      have hall := option_map_m_is_some_iff.mp (Option.isSome_of_mem hconstraints)
      exact cast_constraints_is_some_iff.mp (hall constraints hmem)
    · exact cast_values_is_some_iff.mp (Option.isSome_of_mem hvalues)
  · intro h
    obtain ⟨hlabel, hname, hdescription, hpath, hconstraints, hvalues⟩ := h
    obtain ⟨label, hlabel⟩ := Option.isSome_iff_exists.mp hlabel
    obtain ⟨name, hname⟩ := Option.isSome_iff_exists.mp hname
    obtain ⟨description, hdescription⟩ := Option.isSome_iff_exists.mp hdescription
    obtain ⟨path, hpath⟩ := Option.isSome_iff_exists.mp hpath
    have hall : (item.constraints.mapM castConstraints).isSome = true :=
      option_map_m_is_some_iff.mpr fun constraints hmem =>
        cast_constraints_is_some_iff.mpr (hconstraints constraints hmem)
    obtain ⟨constraints, hconstraints⟩ := Option.isSome_iff_exists.mp hall
    obtain ⟨values, hvalues⟩ :=
      Option.isSome_iff_exists.mp (cast_values_is_some_iff.mpr hvalues)
    exact ⟨{ item with label, name, description, path, constraints, values }, hlabel, hname,
      hdescription, hpath, hconstraints, hvalues, rfl, rfl, rfl⟩

/-- A cast leaves an item as it is when it leaves each of its fields as it is. -/
theorem cast_item_eq_self_iff : castItem item = some item ↔ ItemObeys unchanged item := by
  rw [cast_item_some_iff, option_map_m_eq_self_iff, option_map_m_eq_self_iff]
  simp only [map_m_eq_self_iff, cast_constraints_some_iff, cast_item_value_some_iff, and_true]
  constructor
  · intro h
    obtain ⟨hlabel, hname, hdescription, hpath, hconstraints, hvalues⟩ := h
    refine ⟨hlabel, hname, hdescription, hpath, fun constraints hmem => ?_, ?_⟩
    · obtain ⟨hmin, hmax, hinteger, hminLength, hmaxLength, hpattern, hformat⟩ :=
        hconstraints constraints hmem
      exact ⟨hmin, hmax, hinteger, hminLength, hmaxLength, hpattern, hformat⟩
    · exact hvalues
  · intro h
    obtain ⟨hlabel, hname, hdescription, hpath, hconstraints, hvalues⟩ := h
    refine ⟨hlabel, hname, hdescription, hpath, fun constraints hmem => ?_, ?_⟩
    · obtain ⟨hmin, hmax, hinteger, hminLength, hmaxLength, hpattern, hformat⟩ :=
        hconstraints constraints hmem
      exact ⟨hmin, hmax, hinteger, hminLength, hmaxLength, hpattern, hformat⟩
    · exact hvalues

end CastRules

end ConfigSchema

end MyHomeHub
