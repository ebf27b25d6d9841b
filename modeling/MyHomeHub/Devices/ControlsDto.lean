import MyHomeHub.Common.Errors
import MyHomeHub.Common.ExternalCalls
import MyHomeHub.Devices.Interfaces

/-!
# Controls DTOs

The classes that `class-validator` checks a payload against: `DevicePayloadDto`,
`DeviceControlsDto` and the controls of every brand. All of their properties are
optional, so a property that is null or undefined is not checked. The rules of a property
stand in the order in which they report, the last decorator first, and the properties of
a class stand before the inherited ones.
-/

namespace MyHomeHub

open JavaScript

/-- A rule of one property. -/
structure PropertyRule where
  accepts : Value → Bool
  message : String

/-- A property with its rules. -/
structure DtoProperty where
  name : String
  rules : List PropertyRule

/-- The checked properties of a class. -/
abbrev PayloadDto := List DtoProperty

/-- `validate(plainToInstance(dto, payload))` with the errors of `fromClassValidator`. -/
def PayloadDto.errors (dto : PayloadDto) (payload : DevicePayload) : List ValidationError :=
  dto.flatMap fun property =>
    let value := payload.get property.name
    if value.isNullish then []
    else
      (property.rules.filter fun rule => !rule.accepts value).map fun rule =>
        ⟨s!"{property.name} {rule.message}", some property.name, value⟩

/-- A class has no errors for a payload when the value of each property, unless it is empty, is
accepted by all rules of the property. -/
theorem PayloadDto.errors_nil_iff {dto : PayloadDto} {payload : DevicePayload} :
    dto.errors payload = [] ↔
      ∀ property ∈ dto, (payload.get property.name).isNullish = false →
        ∀ rule ∈ property.rules, rule.accepts (payload.get property.name) = true := by
  unfold PayloadDto.errors
  rw [List.flatMap_eq_nil_iff]
  refine forall₂_congr fun property _ => ?_
  dsimp only
  split
  · rename_i hnullish
    exact iff_of_true rfl fun hsome => absurd hnullish (by rw [hsome]; exact Bool.false_ne_true)
  · rename_i hsome
    rw [Bool.not_eq_true] at hsome
    rw [List.map_eq_nil_iff, List.filter_eq_nil_iff, forall_prop_of_true hsome]
    simp

/-! ## Rules -/

/-- `@IsBoolean()` -/
def isBooleanRule : PropertyRule where
  accepts
    | .bool _ => true
    | _ => false
  message := "must be a boolean value"

/-- `@IsString()` -/
def isStringRule : PropertyRule where
  accepts
    | .string _ => true
    | _ => false
  message := "must be a string"

/-- `@IsInt()` -/
def isIntRule : PropertyRule where
  accepts
    | .number n => n.isInteger
    | _ => false
  message := "must be an integer number"

/-- `@IsNumber()` -/
def isNumberRule : PropertyRule where
  accepts
    | .number n => n.isFinite
    | _ => false
  message := "must be a number conforming to the specified constraints"

/-- `@Min(min)` -/
def minRule (min : Number) : PropertyRule where
  accepts
    | .number n => min.lt n || min.strictEq n
    | _ => false
  message := s!"must not be less than {min.toString}"

/-- `@Max(max)` -/
def maxRule (max : Number) : PropertyRule where
  accepts
    | .number n => n.lt max || n.strictEq max
    | _ => false
  message := s!"must not be greater than {max.toString}"

/-- `@IsEnum(entity)` -/
def isEnumRule (entity : List String) : PropertyRule where
  accepts
    | .string s => entity.contains s
    | _ => false
  message := "must be one of the following values: " ++ ", ".intercalate entity

/-- `@IsHexColor()` -/
def isHexColorRule [ExternalCalls] : PropertyRule where
  accepts
    | .string s => ExternalCalls.isHexColor s
    | _ => false
  message := "must be a hexadecimal color"

/-! ## Classes -/

/-- `DevicePayloadDto`: the class of every measurements payload. -/
def devicePayloadDto : PayloadDto :=
  [⟨devicePayloadOverrideKey, [isBooleanRule]⟩]

/-- `DeviceControlsDto` -/
def deviceControlsDto : PayloadDto :=
  devicePayloadDto ++ [⟨"on", [isBooleanRule]⟩]

/-- `Esp32LockControlsDto` -/
def esp32LockControlsDto : PayloadDto :=
  [⟨"unlocked", [isBooleanRule]⟩,
    ⟨"unlockedTimeoutMs", [maxRule (.finite 60000), minRule (.finite 1000), isIntRule]⟩] ++
  deviceControlsDto

/-- `GoogleSpeakerControlsDto` -/
def googleSpeakerControlsDto : PayloadDto :=
  [⟨"text", [isStringRule]⟩] ++ deviceControlsDto

section

variable [ExternalCalls]

/-- `TuyaControlsDto` -/
def tuyaControlsDto : PayloadDto :=
  [⟨"color", [isHexColorRule]⟩,
    ⟨"brightness", [maxRule (.finite 100), minRule (.finite 1), isIntRule]⟩] ++ deviceControlsDto

/-- `ShellyLedControlsDto` -/
def shellyLedControlsDto : PayloadDto :=
  [⟨"mode", [isEnumRule ["rgb", "cct"]]⟩,
    ⟨"brightness", [maxRule (.finite 100), minRule (.finite 0), isIntRule]⟩,
    ⟨"color", [isHexColorRule]⟩,
    ⟨"temperature", [maxRule (.finite 6500), minRule (.finite 2700), isIntRule]⟩,
    ⟨"transitionDuration",
      [maxRule (.finite 10800), minRule (.finite (1 / 2)), isNumberRule]⟩] ++ deviceControlsDto

/-- `getControlsDtoType` of the control service that the factories create for a device. The
properties that the other classes add have no rules beyond being optional. -/
def controlsDtoType (brand : DeviceBrand) (type : Optional DeviceType) : PayloadDto :=
  match brand, type with
  | .tuya, _ => tuyaControlsDto
  | .google, _ => googleSpeakerControlsDto
  | .shelly, .value .led => shellyLedControlsDto
  | .esp32, .value .lock => esp32LockControlsDto
  | _, _ => deviceControlsDto

end

end MyHomeHub
