import MyHomeHub.JavaScript.Optional
import MyHomeHub.JavaScript.Object

/-!
# Devices

The data model of `devices/interfaces` and of the device schema. The timestamps of a
device are left out: nothing that is modelled reads them.
-/

namespace MyHomeHub

open JavaScript

/-- `Room`. -/
inductive Room where
  | none
  | bathroom
  | bedroom
  | kitchen
  | livingRoom
  | office
  deriving DecidableEq, Repr

/-- `DeviceType`. -/
inductive DeviceType where
  | speaker
  | plug
  | switch
  | led
  | fans
  | motionSensor
  | remote
  | lock
  deriving DecidableEq, Repr

/-- `Object.values(DeviceType)` -/
def DeviceType.values : List DeviceType :=
  [.speaker, .plug, .switch, .led, .fans, .motionSensor, .remote, .lock]

/-- The name of a device type. -/
def DeviceType.text : DeviceType → String
  | .speaker => "speaker"
  | .plug => "plug"
  | .switch => "switch"
  | .led => "led"
  | .fans => "fans"
  | .motionSensor => "motion-sensor"
  | .remote => "remote"
  | .lock => "lock"

/-- `DeviceBrand`. -/
inductive DeviceBrand where
  | google
  | shelly
  | tuya
  | philips
  | esp32
  deriving DecidableEq, Repr

/-- `Object.values(DeviceBrand)` -/
def DeviceBrand.values : List DeviceBrand :=
  [.google, .shelly, .tuya, .philips, .esp32]

/-- The name of a brand. -/
def DeviceBrand.text : DeviceBrand → String
  | .google => "google"
  | .shelly => "shelly"
  | .tuya => "tuya"
  | .philips => "philips"
  | .esp32 => "esp32"

/-- `TransportProtocol`. -/
inductive TransportProtocol where
  | mqtt
  | http
  | tuya
  | zigbee
  deriving DecidableEq, Repr

/-- `Object.values(TransportProtocol)` -/
def TransportProtocol.values : List TransportProtocol :=
  [.mqtt, .http, .tuya, .zigbee]

/-- The name of a transport protocol. -/
def TransportProtocol.text : TransportProtocol → String
  | .mqtt => "mqtt"
  | .http => "http"
  | .tuya => "tuya"
  | .zigbee => "zigbee"

/-- `DevicePayload`: named controls, measurements or commands. -/
abbrev DevicePayload := Object Value

/-- `DEVICE_PAYLOAD_OVERRIDE_KEY`. -/
def devicePayloadOverrideKey : String :=
  "$override"

/-- `Device`: a device document. An update can null every field but the payloads until the schema
rejects the document; the schema gives both payloads the default `{}`. -/
structure Device where
  externalId : String
  name : Optional String
  type : Optional DeviceType
  brand : Optional DeviceBrand := .undefined
  room : Optional Room := .value .none
  transportProtocol : Optional TransportProtocol
  ip : Optional String := .undefined
  tuyaDeviceId : Optional String := .undefined
  tuyaDeviceLocalKey : Optional String := .undefined
  zigbeeFriendlyName : Optional String := .undefined
  zigbeeIeeeAddress : Optional String := .undefined
  updateInterval : Optional Number := .value (.finite 0)
  controls : DevicePayload := ∅
  measurements : DevicePayload := ∅

/-- `DeviceUpdateOrigin`. -/
inductive DeviceUpdateOrigin where
  | api
  | device
  deriving DecidableEq, Repr

/-- The fields by which the config of a device is found. -/
structure DeviceKey where
  brand : Optional DeviceBrand
  type : Optional DeviceType
  transportProtocol : Optional TransportProtocol
  deriving DecidableEq, Repr

/-- `getDeviceConfigKey`. -/
def Device.configKey (device : Device) : DeviceKey :=
  ⟨device.brand, device.type, device.transportProtocol⟩

end MyHomeHub
