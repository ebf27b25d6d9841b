import MyHomeHub.Devices.Interfaces

/-!
# Device configs

The data model of `device-configs/interfaces`. A device config declares the commands,
controls and measurements of the devices of one brand, type and transport protocol. It
comes from a YAML file, and the parser passes the labels, names, paths and constraints of
the file on as they are, so these fields hold any value.
-/

namespace MyHomeHub

open JavaScript

/-- `DeviceConfigItemType`. -/
inductive DeviceConfigItemType where
  | number
  | boolean
  | string
  | enum
  | object
  deriving DecidableEq, Repr

/-- `Object.values(DeviceConfigItemType)` -/
def DeviceConfigItemType.values : List DeviceConfigItemType :=
  [.number, .boolean, .string, .enum, .object]

/-- The name of an item type. -/
def DeviceConfigItemType.text : DeviceConfigItemType → String
  | .number => "number"
  | .boolean => "boolean"
  | .string => "string"
  | .enum => "enum"
  | .object => "object"

/-- `DeviceConfigItemFormat`. -/
inductive DeviceConfigItemFormat where
  | hexColor
  | ip
  | url
  deriving DecidableEq, Repr

/-- `Object.values(DeviceConfigItemFormat)` -/
def DeviceConfigItemFormat.values : List DeviceConfigItemFormat :=
  [.hexColor, .ip, .url]

/-- The name of a format. -/
def DeviceConfigItemFormat.text : DeviceConfigItemFormat → String
  | .hexColor => "hex-color"
  | .ip => "ip"
  | .url => "url"

/-- `DeviceConfigValidationPolicy`: what happens to a payload that violates a device config. -/
inductive DeviceConfigValidationPolicy where
  | reject
  | sanitize
  deriving DecidableEq, Repr

/-- `DeviceConfigItemConstraints`. -/
structure DeviceConfigItemConstraints where
  min : Value := .undefined
  max : Value := .undefined
  integer : Value := .undefined
  minLength : Value := .undefined
  maxLength : Value := .undefined
  pattern : Value := .undefined
  format : Value := .undefined
  deriving DecidableEq, Repr

/-- `DeviceConfigItemValue`. The parser turns the name into a string. -/
structure DeviceConfigItemValue where
  label : Value
  name : String
  path : Value := .undefined
  deriving DecidableEq, Repr

/-- `DeviceConfigItem`: a declared command, control or measurement. -/
structure DeviceConfigItem where
  label : Value
  name : Value
  type : DeviceConfigItemType
  description : Value := .undefined
  path : Value := .undefined
  default : Value := .undefined
  required : Bool := false
  constraints : Option DeviceConfigItemConstraints := none
  values : Option (List DeviceConfigItemValue) := none
  deriving DecidableEq, Repr

/-- `item.path ?? item.name`: the name of an item on the side of the device. -/
def DeviceConfigItem.deviceName (item : DeviceConfigItem) : Value :=
  item.path.orElse item.name

/-- `DEVICE_CONFIG_SECTIONS`. -/
inductive DeviceConfigSection where
  | commands
  | controls
  | measurements
  deriving DecidableEq, Repr

/-- The name of a section. -/
def DeviceConfigSection.text : DeviceConfigSection → String
  | .commands => "commands"
  | .controls => "controls"
  | .measurements => "measurements"

/-- `DeviceConfig`: stored once for its brand, type and transport protocol. -/
structure DeviceConfig where
  brand : DeviceBrand
  type : DeviceType
  transportProtocol : TransportProtocol
  strict : Option Bool := none
  commands : Option (List DeviceConfigItem) := none
  controls : Option (List DeviceConfigItem) := none
  measurements : Option (List DeviceConfigItem) := none
  deriving DecidableEq, Repr

namespace DeviceConfig

/-- `config[section]`. -/
def items (config : DeviceConfig) : DeviceConfigSection → Option (List DeviceConfigItem)
  | .commands => config.commands
  | .controls => config.controls
  | .measurements => config.measurements

/-- `config.strict !== false`. -/
def isStrict (config : DeviceConfig) : Bool :=
  config.strict ≠ some false

/-- The key under which a config is found. -/
def key (config : DeviceConfig) : DeviceKey :=
  ⟨.value config.brand, .value config.type, .value config.transportProtocol⟩

end DeviceConfig

/-- `items.find(item => item.name === name)`. -/
def findItem (items : List DeviceConfigItem) (name : String) : Option DeviceConfigItem :=
  items.find? fun item => item.name.strictEq (.string name)

/-- A found item has the name that was looked for. -/
theorem find_item_some {items : List DeviceConfigItem} {name : String}
    {item : DeviceConfigItem} (h : findItem items name = some item) :
    item ∈ items ∧ item.name = .string name := by
  have hname : item.name.strictEq (.string name) = true :=
    List.find?_some (p := fun item : DeviceConfigItem => item.name.strictEq (.string name)) h
  exact ⟨List.mem_of_find?_eq_some h, Value.strict_eq_string.mp hname⟩

/-- No item is found exactly when none has the name. -/
theorem find_item_none {items : List DeviceConfigItem} {name : String} :
    findItem items name = none ↔ ∀ item ∈ items, item.name ≠ .string name := by
  simp [findItem, List.find?_eq_none]

/-- An item is found by its name when no other item has it. -/
theorem find_item_of_mem {items : List DeviceConfigItem} {item : DeviceConfigItem}
    {name : String} (hnames : (items.map (·.name)).Nodup) (hitem : item ∈ items)
    (hname : item.name = .string name) : findItem items name = some item := by
  cases h : findItem items name with
  | none => exact absurd hname (find_item_none.mp h item hitem)
  | some found =>
      obtain ⟨hfound, hfoundName⟩ := find_item_some h
      have hsame : found.name = item.name := hfoundName.trans hname.symm
      exact congrArg some (List.inj_on_of_nodup_map hnames hfound hitem hsame)

/-- `getConfig`: the stored config of a key. A device without a brand has none, since every config
has one. -/
def getConfig (configs : List DeviceConfig) (key : DeviceKey) : Option DeviceConfig :=
  configs.find? fun config => config.key = key

end MyHomeHub
