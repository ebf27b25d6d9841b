import MyHomeHub.Common.Errors
import MyHomeHub.Common.ExternalCalls
import MyHomeHub.DeviceConfigs.Interfaces

/-!
# Item validators

`device-config-item.validators`: the rules that a config item sets for a value. Each
validator returns the message of the violated rule, or none. A rule can also throw: the
pattern of an item need not be a regular expression.
-/

namespace MyHomeHub

open JavaScript

variable [ExternalCalls]

/-- `FORMAT_VALIDATORS[format]`. -/
def formatValidator (format : Value) : Option (String → Bool) :=
  match format.toString with
  | "hex-color" => some ExternalCalls.isHexColor
  | "ip" => some ExternalCalls.isIP
  | "url" => some ExternalCalls.isURL
  | _ => none

/-- `getItemDefaultValue`. -/
def getItemDefaultValue (item : DeviceConfigItem) : Value :=
  item.default.orElse .null

/-- `isPlainObject`. -/
def isPlainObject : Value → Bool
  | .object _ => true
  | _ => false

/-- `validateBooleanValue`. -/
def validateBooleanValue (item : DeviceConfigItem) (value : Value) : Option String :=
  match value with
  | .bool _ => none
  | _ => some s!"\"{item.name.toString}\" must be a boolean value"

/-- `validateNumberValue`. -/
def validateNumberValue (item : DeviceConfigItem) (value : Value) : Option String :=
  match value with
  | .number n =>
      let constraints := item.constraints.getD {}
      if !n.isFinite then
        some s!"\"{item.name.toString}\" must be a number"
      else if constraints.integer.truthy && !n.isInteger then
        some s!"\"{item.name.toString}\" must be an integer number"
      else if !constraints.min.isNullish && n.lt constraints.min.toNumber then
        some s!"\"{item.name.toString}\" must not be less than {constraints.min.toString}"
      else if !constraints.max.isNullish && constraints.max.toNumber.lt n then
        some s!"\"{item.name.toString}\" must not be greater than {constraints.max.toString}"
      else none
  | _ => some s!"\"{item.name.toString}\" must be a number"

/-- `validateStringValue`. -/
def validateStringValue (item : DeviceConfigItem) (value : Value) :
    Except HubError (Option String) :=
  match value with
  | .string s => do
      let constraints := item.constraints.getD {}
      let length : Number := .finite (utf16Length s)
      if !constraints.minLength.isNullish && length.lt constraints.minLength.toNumber then
        return some (s!"\"{item.name.toString}\" must be longer than or equal to " ++
          s!"{constraints.minLength.toString} characters")
      if !constraints.maxLength.isNullish && constraints.maxLength.toNumber.lt length then
        return some (s!"\"{item.name.toString}\" must be shorter than or equal to " ++
          s!"{constraints.maxLength.toString} characters")
      if !constraints.pattern.isNullish then
        match ExternalCalls.regExp constraints.pattern.toString with
        | none => throw (.thrown s!"Invalid regular expression: {constraints.pattern.toString}")
        | some test =>
            if !test s then
              return some (s!"\"{item.name.toString}\" must match the " ++
                s!"{constraints.pattern.toString} pattern")
      if !constraints.format.isNullish then
        match formatValidator constraints.format with
        | none => throw .typeError
        | some validator =>
            if !validator s then
              return some (s!"\"{item.name.toString}\" must be a valid " ++
                s!"{constraints.format.toString} value")
      return none
  | _ => .ok (some s!"\"{item.name.toString}\" must be a string")

/-- `validateEnumValue`. -/
def validateEnumValue (item : DeviceConfigItem) (value : Value) : Option String :=
  let allowedValues := (item.values.getD []).map (·.name)
  if allowedValues.isEmpty then
    match value with
    | .string _ => none
    | _ => some s!"\"{item.name.toString}\" must be a string"
  else if allowedValues.contains value.toString then none
  else
    some (s!"\"{item.name.toString}\" must be one of the following values: " ++
      ", ".intercalate allowedValues)

/-- `validateItemValue`: an empty value is valid. -/
def validateItemValue (item : DeviceConfigItem) (value : Value) :
    Except HubError (Option String) :=
  if value.isNullish then .ok none
  else
    match item.type with
    | .boolean => .ok (validateBooleanValue item value)
    | .number => .ok (validateNumberValue item value)
    | .string => validateStringValue item value
    | .enum => .ok (validateEnumValue item value)
    | .object =>
        .ok (if isPlainObject value then none
          else some s!"\"{item.name.toString}\" must be an object")

/-- Whether a value passes the rules of an item. -/
def acceptsValue (item : DeviceConfigItem) (value : Value) : Bool :=
  match validateItemValue item value with
  | .ok none => true
  | _ => false

theorem accepts_value_iff {item : DeviceConfigItem} {value : Value} :
    acceptsValue item value = true ↔ validateItemValue item value = .ok none := by
  unfold acceptsValue
  split <;> simp_all

/-! ## What an accepted value looks like -/

section Accepted

variable {item : DeviceConfigItem} {value : Value}

/-- A boolean item accepts booleans. -/
theorem accepted_boolean (htype : item.type = .boolean) (hvalue : value.isNullish = false)
    (h : validateItemValue item value = .ok none) : ∃ b, value = .bool b := by
  rw [validateItemValue, if_neg (by simp [hvalue]), htype] at h
  cases value with
  | bool b => exact ⟨b, rfl⟩
  | undefined => simp at hvalue
  | null => simp at hvalue
  | number n => simp [validateBooleanValue] at h
  | string s => simp [validateBooleanValue] at h
  | array elements => simp [validateBooleanValue] at h
  | object fields => simp [validateBooleanValue] at h

/-- A number item accepts finite numbers. -/
theorem accepted_number (htype : item.type = .number) (hvalue : value.isNullish = false)
    (h : validateItemValue item value = .ok none) :
    ∃ n, value = .number n ∧ n.isFinite = true := by
  rw [validateItemValue, if_neg (by simp [hvalue]), htype] at h
  cases value with
  | number n =>
      refine ⟨n, rfl, ?_⟩
      cases hfinite : n.isFinite with
      | true => rfl
      | false => simp [validateNumberValue, hfinite] at h
  | undefined => simp at hvalue
  | null => simp at hvalue
  | bool b => simp [validateNumberValue] at h
  | string s => simp [validateNumberValue] at h
  | array elements => simp [validateNumberValue] at h
  | object fields => simp [validateNumberValue] at h

/-- An object item accepts objects. -/
theorem accepted_object (htype : item.type = .object) (hvalue : value.isNullish = false)
    (h : validateItemValue item value = .ok none) : ∃ fields, value = .object fields := by
  rw [validateItemValue, if_neg (by simp [hvalue]), htype] at h
  cases value with
  | object fields => exact ⟨fields, rfl⟩
  | undefined => simp at hvalue
  | null => simp at hvalue
  | bool b => simp [isPlainObject] at h
  | number n => simp [isPlainObject] at h
  | string s => simp [isPlainObject] at h
  | array elements => simp [isPlainObject] at h

/-- An enum item that declares values accepts the values whose text is a declared name. -/
theorem accepted_enum (htype : item.type = .enum) (hvalue : value.isNullish = false)
    (hvalues : item.values.getD [] ≠ []) (h : validateItemValue item value = .ok none) :
    ∃ itemValue ∈ item.values.getD [], itemValue.name = value.toString := by
  rw [validateItemValue, if_neg (by simp [hvalue]), htype] at h
  simp only [validateEnumValue, List.isEmpty_iff, List.map_eq_nil_iff, if_neg hvalues,
    Except.ok.injEq] at h
  split at h
  · rename_i hcontains
    simpa using hcontains
  · exact absurd h (by simp)

end Accepted

end MyHomeHub
