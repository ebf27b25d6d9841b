import MyHomeHub.DeviceConfigs.Interfaces

/-!
# The device configs mapper

`device-configs-mapper.service`: the translation of a payload between the names and
values of the hub and those of a device. The config of the device is passed in, since
every entry point looks it up first.
-/

namespace MyHomeHub.Mapper

open JavaScript

/-- Whether an item has declared values that stand for device values. -/
def hasValues (item : DeviceConfigItem) : Bool :=
  item.type = .boolean || item.type = .enum

/-- `itemValue.path === String(value)`. -/
def matchesPath (value : Value) (itemValue : DeviceConfigItemValue) : Bool :=
  itemValue.path.strictEq (.string value.toString)

/-- `itemValue.name === String(value)`. -/
def matchesName (value : Value) (itemValue : DeviceConfigItemValue) : Bool :=
  itemValue.name = value.toString

/-- `findConfigItem`: the item of a field that a device reports. -/
def findConfigItem (configs : List DeviceConfigItem) (name : String) (value : Value) :
    Option DeviceConfigItem :=
  configs.find? fun item =>
    item.deviceName.strictEq (.string name) &&
      (!hasValues item || (item.values.getD []).any fun itemValue =>
        matchesPath value itemValue || matchesName value itemValue)

/-- `mapValueToDevice`. -/
def mapValueToDevice (item : DeviceConfigItem) (value : Value) : Value :=
  if hasValues item then
    match (item.values.getD []).find? (matchesName value) with
    | some mappedValue => mappedValue.path.orElse value
    | none => value
  else item.path.orElse value

/-- `mapValueFromDevice`. -/
def mapValueFromDevice (item : DeviceConfigItem) (value : Value) : Value :=
  if hasValues item then
    match ((item.values.getD []).find? (matchesPath value)).or
        ((item.values.getD []).find? (matchesName value)) with
    | none => value
    | some mappedValue =>
        if item.type = .boolean then
          .bool (mappedValue.name.toList.map Char.toLower = ['t', 'r', 'u', 'e'])
        else .string mappedValue.name
  else if item.type = .number then
    match value.toNumber with
    | .nan => value
    | numericValue => .number numericValue
  else value

/-- The field a device gets for an entry: an entry without an item keeps its name and value. -/
def mapEntryToDevice (configs : List DeviceConfigItem) (entry : Σ _ : String, Value) :
    Σ _ : String, Value :=
  match findItem configs entry.1 with
  | some item => ⟨item.deviceName.toString, mapValueToDevice item entry.2⟩
  | none => entry

/-- The entry for a field of a device: a field without an item keeps its name and value. -/
def mapEntryFromDevice (items : List DeviceConfigItem) (entry : Σ _ : String, Value) :
    Σ _ : String, Value :=
  match findConfigItem items entry.1 entry.2 with
  | some item => ⟨item.name.toString, mapValueFromDevice item entry.2⟩
  | none => entry

/-- `mapPayloadToDevice`: commands and controls are mapped alike. -/
def mapPayloadToDevice (config : Option DeviceConfig) (payload : DevicePayload) :
    DevicePayload :=
  let configs := (config.bind (·.commands)).getD [] ++ (config.bind (·.controls)).getD []
  if configs.isEmpty then payload
  else
    .ofAssignments (payload.entries.map (mapEntryToDevice configs))

/-- `mapPayloadFromDevice`. -/
def mapPayloadFromDevice (config : Option DeviceConfig) (payloadSection : DeviceConfigSection)
    (payload : DevicePayload) : DevicePayload :=
  let items := (config.bind (·.items payloadSection)).getD []
  if items.isEmpty then payload
  else
    .ofAssignments (payload.entries.map (mapEntryFromDevice items))

end MyHomeHub.Mapper
