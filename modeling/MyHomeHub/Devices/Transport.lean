import MyHomeHub.DeviceConfigs.Mapper
import MyHomeHub.Devices.ControlService

/-!
# Sending controls to a device

`setControls` of the control services: the control service of a brand makes a message of
the controls, the device config translates its payload, and the transport service of the
protocol sends it. Whatever is thrown on the way is logged, so the outcome of a call is
the message that goes out, if any.

The Google service is not tied to a transport: it speaks the text itself and makes no
message.
-/

namespace MyHomeHub.ControlService

open JavaScript

/-- The color library. -/
class ColorCalls where
  /-- Hue and saturation of `Color(hexColor).hsv()`, or none when it throws. -/
  hsv : (hexColor : String) → Option (ℚ × ℚ)

/-- A color library for runs in which no color is converted. -/
@[reducible] def ColorCalls.unused : ColorCalls where
  hsv _ := none

/-! ## Messages -/

/-- What a message names besides its payload, which tells the transports apart. -/
inductive MessageAddress where
  /-- `MqttMessage` -/
  | mqtt (topic : String) (topicParams : List String)
  /-- `HttpMessage` -/
  | http (method url : String)
  /-- `TuyaMessage` -/
  | tuya (tuyaId ip localKey : String)
  deriving DecidableEq, Repr

/-- `TransportMessage` -/
structure TransportMessage where
  address : MessageAddress
  payload : DevicePayload

/-- `stripEmptyValues` -/
def stripEmptyValues (payload : DevicePayload) : DevicePayload :=
  .ofAssignments (payload.entries.filter fun entry => !entry.2.isNullish)

/-- `getControlsDto`: `plainToInstance` skips the names that the instance inherits. -/
def getControlsDto (controls : DevicePayload) : DevicePayload :=
  .ofAssignments (controls.entries.filter fun entry =>
    !Object.prototypeNames.contains entry.1)

/-- A field that the device needs for its messages, or the error when it is empty. -/
def requireField (field : Optional String) (message : String) : Except HubError String :=
  if field.isNonEmpty then .ok (field.getD "") else .error (.thrown message)

/-- `getDeviceIP` -/
def getDeviceIP (device : Device) : Except HubError String :=
  requireField device.ip (s!"The device with id \"{device.externalId}\" does not have an IP " ++
    "address, not possible to set the controls")

/-! ## Shelly -/

/-- `ShellyComponent` -/
inductive ShellyComponent where
  | switch
  | rgbcct
  deriving DecidableEq, Repr

/-- The name of a component. -/
def ShellyComponent.text : ShellyComponent → String
  | .switch => "Switch"
  | .rgbcct => "RGBCCT"

/-- `SHELLY_COMPONENT_CONTROLS` -/
def shellyComponentControls : ShellyComponent → List String
  | .switch => ["on"]
  | .rgbcct => ["on", "mode", "brightness", "color", "temperature", "transitionDuration"]

/-- `parseInt(channel, 16)` -/
def parseHex (channel : List Char) : Number :=
  let (negative, unsigned) := match channel.dropWhile isWhitespace with
    | '-' :: rest => (true, rest)
    | '+' :: rest => (false, rest)
    | rest => (false, rest)
  let digits := match unsigned with
    | '0' :: 'x' :: rest | '0' :: 'X' :: rest => rest
    | rest => rest
  match Number.radixValue 16 (digits.takeWhile fun c => (Number.radixValue 16 [c]).isSome) with
  | some value => .finite (if negative then -value else value)
  | none => .nan

/-- `hex.match(/.{2}/g)`, which skips line terminators. -/
def charPairs : List Char → List (List Char)
  | first :: second :: rest =>
      let isTerminator (c : Char) := c.val ∈ [0x0A, 0x0D, 0x2028, 0x2029]
      if isTerminator first || isTerminator second then charPairs (second :: rest)
      else [first, second] :: charPairs rest
  | _ => []

/-- `toRgbArray`, on a text within the Basic Multilingual Plane. -/
def toRgbArray (value : Value) : Value :=
  let chars := value.toString.toList
  let hex := if chars.contains '#' then chars.erase '#' else chars
  let normalized :=
    if hex.length = 3 || hex.length = 4 then (hex.take 3).map fun c => [c, c]
    else charPairs hex
  if normalized.length < 3 then value
  else .array ((normalized.take 3).map fun channel => .number (parseHex channel))

/-- `ShellyControlParam` -/
structure ShellyControlParam where
  namePath : String
  transform : Value → Value := id

/-- `SHELLY_CONTROL_PARAMS` -/
def shellyControlParams : List (String × ShellyControlParam) :=
  [("on", { namePath := "on" }),
    ("mode", { namePath := "mode" }),
    ("brightness", { namePath := "brightness" }),
    ("temperature", { namePath := "ct" }),
    ("transitionDuration", { namePath := "transition_duration" }),
    ("color", { namePath := "rgb", transform := toRgbArray })]

/-- `getComponents` of the control service that the factory creates. -/
def getComponents (type : Optional DeviceType) : List ShellyComponent :=
  if type = .value .led then [.rgbcct] else [.switch]

/-- `getControlNames` -/
def getControlNames (controls : DevicePayload) : List String :=
  (controls.entries.filter fun entry =>
    entry.1 ≠ devicePayloadOverrideKey && !entry.2.isNullish).map (·.1)

/-- `resolveComponent` -/
def resolveComponent (device : Device) (controls : DevicePayload) :
    Except HubError ShellyComponent :=
  let components := getComponents device.type
  let controlNames := getControlNames controls
  match components.find? fun component =>
      controlNames.all fun name => (shellyComponentControls component).contains name with
  | some component => .ok component
  | none =>
      let names := ", ".intercalate (components.map (·.text))
      .error (.thrown (s!"None of the \"{names}\" components of the device " ++
        s!"\"{device.externalId}\" supports all the controls: " ++
          ", ".intercalate controlNames))

/-- `getRpcParams` -/
def getRpcParams (controls : DevicePayload) : List (String × Value) :=
  (getControlNames controls).filterMap fun name =>
    (shellyControlParams.lookup name).map fun param =>
      (param.namePath, param.transform (controls.get name))

/-- `getControlsPayload` of the Shelly services. -/
def shellyControlsPayload (device : Device) (controls : DevicePayload) :
    Except HubError TransportMessage := do
  let ip ← getDeviceIP device
  let component ← resolveComponent device controls
  return {
    address := .http "POST" s!"http://{ip}/rpc"
    payload := .ofAssignments
      [⟨"id", .number (.finite 1)⟩,
        ⟨"method", .string s!"{component.text}.Set"⟩,
        ⟨"params", .object (("id", .number (.finite 0)) :: getRpcParams controls)⟩] }

/-! ## Tuya -/

/-- `Math.round(n).toString(16).padStart(4, '0')` in lower case. -/
def roundedHex (n : Number) : List Char :=
  let digits := match n with
    | .finite q =>
        let rounded := ⌊q + 1 / 2⌋
        (if rounded < 0 then ['-'] else []) ++ Nat.toDigits 16 rounded.natAbs
    | n => n.toString.toList
  List.leftpad 4 '0' (digits.map Char.toLower)

/-- `n * 10` -/
def timesTen : Number → Number
  | .finite q => Number.toDouble (q * 10)
  | n => n

/-- `${controls.color ?? currentControls?.color ?? DEFAULT_COLOR}` -/
def tuyaColor (device : Device) (controls : DevicePayload) : String :=
  (((controls.get "color").orElse (device.controls.get "color")).orElse
    (.string "#FFFFFF")).toString

/-- The brightness of `mapTuyaControls`. -/
def tuyaBrightness (device : Device) (controls : DevicePayload) : Number :=
  let brightness := (((controls.get "brightness").orElse
    (device.controls.get "brightness")).orElse (.number (.finite 100))).toNumber
  if brightness.lt (.finite 1) || (Number.finite 100).lt brightness then .finite 100
  else brightness

section

variable [ColorCalls]

/-- `convertToTuyaColorFormat` -/
def convertToTuyaColorFormat (hexColor : String) (brightness : Number) : Except HubError String :=
  match ColorCalls.hsv hexColor with
  | none => .error (.thrown s!"Unable to parse color from string: {hexColor}")
  | some (hue, saturationv) =>
      .ok (String.ofList (roundedHex (.finite hue) ++
        roundedHex (timesTen (.finite saturationv)) ++ roundedHex (timesTen brightness)))

/-- `mapTuyaControls`, with the data points for the mode, the switch and the color. -/
def mapTuyaControls (device : Device) (controls : DevicePayload) :
    Except HubError DevicePayload := do
  let mode := [⟨"21", .string "colour"⟩]
  let switched :=
    if (controls.get "on").isNullish then mode
    else mode ++ [⟨"20", .bool (controls.get "on").truthy⟩]
  if !(controls.get "color").isNullish || !(controls.get "brightness").isNullish then
    let color ← convertToTuyaColorFormat (tuyaColor device controls)
      (tuyaBrightness device controls)
    return .ofAssignments (switched ++ [⟨"24", .string color⟩])
  else return .ofAssignments switched

/-- `getControlsPayload` of the Tuya service. -/
def tuyaControlsPayload (device : Device) (controls : DevicePayload) :
    Except HubError TransportMessage := do
  let tuyaId ← requireField device.tuyaDeviceId
    s!"The Tuya device with id \"{device.externalId}\" is missing a Tuya device Id"
  let ip ← getDeviceIP device
  let localKey ← requireField device.tuyaDeviceLocalKey
    s!"The Tuya device with id \"{device.externalId}\" is missing a Tuya device local key"
  let payload ← mapTuyaControls device controls
  return ⟨.tuya tuyaId ip localKey, payload⟩

/-! ## Sending -/

/-- `ESP32_DEVICE_CONTROLS_UPDATE_TOPIC` -/
def esp32DeviceControlsUpdateTopic : String :=
  "home/devices/+/controls/update"

/-- `getControlsPayload` of the control service of a device, where none is a null payload. -/
def getControlsPayload (device : Device) (controls : DevicePayload) :
    Except HubError (Option TransportMessage) :=
  match device.brand with
  | .value .esp32 => .ok (some ⟨.mqtt esp32DeviceControlsUpdateTopic [device.externalId], controls⟩)
  | .value .shelly => some <$> shellyControlsPayload device controls
  | .value .tuya => some <$> tuyaControlsPayload device controls
  | .value .google =>
      if (controls.get "text").truthy then do
        -- the text is spoken here
        let _ ← getDeviceIP device
        return none
      else .ok none
  | .value .philips | .null | .undefined => .ok none

/-- `mapMessagePayload` -/
def mapMessagePayload (configs : List DeviceConfig) (device : Device)
    (message : TransportMessage) : TransportMessage :=
  { message with
    payload := Mapper.mapPayloadToDevice (getConfig configs device.configKey) message.payload }

/-- `send` of the transport services. The HTTP client throws without a url, the MQTT client without
a topic and the Tuya client without an id, so a service sends the messages that are meant for it.
The Zigbee service sends nothing. -/
def sendBy (protocol : TransportProtocol) (message : TransportMessage) :
    Option TransportMessage :=
  match protocol, message.address with
  | .mqtt, .mqtt _ _ | .http, .http _ _ | .tuya, .tuya _ _ _ => some message
  | _, _ => none

/-- `setControls`: the message that is sent, if any. -/
def setControls (configs : List DeviceConfig) (device : Device) (controls : DevicePayload) :
    Option TransportMessage :=
  match getControlsPayload device (getControlsDto (stripEmptyValues controls)) with
  | .ok (some payload) =>
      match device.transportProtocol with
      | .value protocol => sendBy protocol (mapMessagePayload configs device payload)
      | _ => none
  | _ => none

/-! ## When a message goes out -/

/-- The Shelly device has a component with every control that is set. -/
def SupportsControls (type : Optional DeviceType) (controls : DevicePayload) : Prop :=
  ∃ component ∈ getComponents type, ∀ name value, controls.lookup name = some value →
    value.isNullish = false → name ∉ Object.prototypeNames → name ≠ devicePayloadOverrideKey →
      name ∈ shellyComponentControls component

/-- The color of a Tuya device can be converted, unless no color has to be sent. -/
def HasTuyaColor (device : Device) (controls : DevicePayload) : Prop :=
  (controls.get "color").isNullish = false ∨ (controls.get "brightness").isNullish = false →
    (ColorCalls.hsv (tuyaColor device controls)).isSome = true

/-- A message goes out: the brand makes one for the controls, and the protocol of the device is the
one that the message is for. -/
def SendsMessage (device : Device) (controls : DevicePayload) : Prop :=
  match device.brand with
  | .value .esp32 => device.transportProtocol = .value .mqtt
  | .value .shelly =>
      device.transportProtocol = .value .http ∧ device.ip.isNonEmpty = true ∧
        SupportsControls device.type controls
  | .value .tuya =>
      device.transportProtocol = .value .tuya ∧ device.tuyaDeviceId.isNonEmpty = true ∧
        device.ip.isNonEmpty = true ∧ device.tuyaDeviceLocalKey.isNonEmpty = true ∧
          HasTuyaColor device controls
  | .value .google | .value .philips | .null | .undefined => False

variable {device : Device} {controls : DevicePayload} {name : String} {value : Value}

omit [ColorCalls] in
/-- The control service gets the values that are set, under the names that are not inherited. -/
theorem lookup_controls_dto :
    (getControlsDto (stripEmptyValues controls)).lookup name = some value ↔
      controls.lookup name = some value ∧ value.isNullish = false ∧
        name ∉ Object.prototypeNames := by
  rw [getControlsDto, Object.lookup_of_filter, stripEmptyValues, Object.lookup_of_filter]
  simp [and_assoc]

omit [ColorCalls] in
/-- A control that is read is the one of the device, or undefined. -/
theorem get_controls_dto (hname : name ∉ Object.prototypeNames) :
    (getControlsDto (stripEmptyValues controls)).get name =
      if (controls.get name).isNullish then .undefined else controls.get name := by
  unfold Object.get
  cases hlookup : controls.lookup name with
  | none =>
      have hnone : (getControlsDto (stripEmptyValues controls)).lookup name = none := by
        rw [Option.eq_none_iff_forall_ne_some]
        intro value hvalue
        have hsome := (lookup_controls_dto.mp hvalue).1
        rw [hlookup] at hsome
        cases hsome
      rw [hnone]
      rfl
  | some value =>
      show Value.ofOption _ = if value.isNullish then Value.undefined else value
      cases hnullish : value.isNullish with
      | false =>
          rw [lookup_controls_dto.mpr ⟨hlookup, hnullish, hname⟩]
          rfl
      | true =>
          have hnone : (getControlsDto (stripEmptyValues controls)).lookup name = none := by
            rw [Option.eq_none_iff_forall_ne_some]
            intro other hother
            obtain ⟨hsome, hset, -⟩ := lookup_controls_dto.mp hother
            rw [hlookup, Option.some.injEq] at hsome
            rw [← hsome, hnullish] at hset
            cases hset
          rw [hnone]
          rfl

omit [ColorCalls] in
theorem require_field_ok_iff {field : Optional String} {message : String} :
    (∃ text, requireField field message = .ok text) ↔ field.isNonEmpty = true := by
  unfold requireField
  split_ifs with h
  · exact iff_of_true ⟨_, rfl⟩ h
  · exact iff_of_false nofun h

omit [ColorCalls] in
theorem get_device_ip_ok_iff :
    (∃ ip, getDeviceIP device = .ok ip) ↔ device.ip.isNonEmpty = true :=
  require_field_ok_iff

omit [ColorCalls] in
/-- The names that reach the Shelly service are those of the controls that are set. -/
theorem mem_control_names :
    name ∈ getControlNames (getControlsDto (stripEmptyValues controls)) ↔
      ∃ value, controls.lookup name = some value ∧ value.isNullish = false ∧
        name ∉ Object.prototypeNames ∧ name ≠ devicePayloadOverrideKey := by
  simp only [getControlNames, List.mem_map, List.mem_filter, Bool.and_eq_true,
    Bool.not_eq_true', decide_eq_true_eq]
  refine ⟨fun ⟨entry, ⟨hentry, hoverride, hset⟩, hname⟩ => ?_,
    fun ⟨value, hlookup, hset, hinherited, hoverride⟩ => ?_⟩
  · obtain ⟨entryName, value⟩ := entry
    subst hname
    obtain ⟨hlookup, -, hinherited⟩ := lookup_controls_dto.mp (AList.mem_lookup_iff.mpr hentry)
    exact ⟨value, hlookup, hset, hinherited, hoverride⟩
  · have hentry := AList.mem_lookup_iff.mp
      (lookup_controls_dto.mpr ⟨hlookup, hset, hinherited⟩)
    exact ⟨⟨name, value⟩, ⟨hentry, hoverride, hset⟩, rfl⟩

omit [ColorCalls] in
theorem resolve_component_ok_iff :
    (∃ component,
      resolveComponent device (getControlsDto (stripEmptyValues controls)) = .ok component) ↔
      SupportsControls device.type controls := by
  have hall (component : ShellyComponent) :
      ((getControlNames (getControlsDto (stripEmptyValues controls))).all fun name =>
        (shellyComponentControls component).contains name) = true ↔
      ∀ name value, controls.lookup name = some value → value.isNullish = false →
        name ∉ Object.prototypeNames → name ≠ devicePayloadOverrideKey →
          name ∈ shellyComponentControls component := by
    simp only [List.all_eq_true, mem_control_names, List.contains_iff_mem]
    refine ⟨fun h name value hlookup hset hinherited hoverride => ?_, fun h name hname => ?_⟩
    · exact h name ⟨value, hlookup, hset, hinherited, hoverride⟩
    · obtain ⟨value, hlookup, hset, hinherited, hoverride⟩ := hname
      exact h name value hlookup hset hinherited hoverride
  have hfind : (∃ component,
      resolveComponent device (getControlsDto (stripEmptyValues controls)) = .ok component) ↔
      ((getComponents device.type).find? fun component =>
        (getControlNames (getControlsDto (stripEmptyValues controls))).all fun name =>
          (shellyComponentControls component).contains name).isSome = true := by
    unfold resolveComponent
    dsimp only
    split
    · rename_i component hcomponent
      rw [hcomponent]
      exact iff_of_true ⟨component, rfl⟩ rfl
    · rename_i hnone
      rw [hnone]
      exact iff_of_false nofun nofun
  -- the first such component is taken, so it is enough that there is one
  rw [hfind, List.find?_isSome, SupportsControls]
  simp only [hall]

omit [ColorCalls] in
theorem shelly_payload_ok_iff :
    (∃ message,
      shellyControlsPayload device (getControlsDto (stripEmptyValues controls)) = .ok message) ↔
      device.ip.isNonEmpty = true ∧ SupportsControls device.type controls := by
  rw [← resolve_component_ok_iff, ← get_device_ip_ok_iff]
  simp only [shellyControlsPayload, bind_ok_iff, pure, Except.pure]
  refine ⟨fun ⟨message, ip, hip, component, hcomponent, hmessage⟩ => ?_,
    fun ⟨⟨ip, hip⟩, component, hcomponent⟩ => ?_⟩
  · exact ⟨⟨ip, hip⟩, component, hcomponent⟩
  · exact ⟨_, ip, hip, component, hcomponent, rfl⟩

omit [ColorCalls] in
/-- The color that is sent is the one of the device. -/
theorem tuya_color_dto :
    tuyaColor device (getControlsDto (stripEmptyValues controls)) = tuyaColor device controls := by
  have hcolor : "color" ∉ Object.prototypeNames := by decide
  rw [tuyaColor, tuyaColor, get_controls_dto hcolor]
  split_ifs with hnullish
  · rw [Value.or_else_of_nullish hnullish]
    rfl
  · rfl

theorem map_tuya_controls_ok_iff :
    (∃ payload, mapTuyaControls device (getControlsDto (stripEmptyValues controls)) =
      .ok payload) ↔ HasTuyaColor device controls := by
  have hset (name : String) (hname : name ∉ Object.prototypeNames) :
      ((getControlsDto (stripEmptyValues controls)).get name).isNullish =
        (controls.get name).isNullish := by
    rw [get_controls_dto hname]
    split_ifs with hnullish
    · exact hnullish.symm
    · rfl
  have hconvert (brightness : Number) :
      (∃ text, convertToTuyaColorFormat (tuyaColor device controls) brightness = .ok text) ↔
        (ColorCalls.hsv (tuyaColor device controls)).isSome = true := by
    unfold convertToTuyaColorFormat
    split
    · rename_i hnone
      rw [hnone]
      exact iff_of_false nofun nofun
    · rename_i hsome
      rw [hsome]
      exact iff_of_true ⟨_, rfl⟩ rfl
  unfold mapTuyaControls HasTuyaColor
  rw [hset "color" (by decide), hset "brightness" (by decide), tuya_color_dto]
  dsimp only
  by_cases hcolor : (!(controls.get "color").isNullish ||
      !(controls.get "brightness").isNullish) = true
  · rw [if_pos hcolor]
    rw [Bool.or_eq_true, Bool.not_eq_true', Bool.not_eq_true'] at hcolor
    rw [imp_iff_right hcolor, ← hconvert]
    simp only [bind_ok_iff, pure, Except.pure]
    refine ⟨fun ⟨payload, text, htext, _⟩ => ⟨text, htext⟩, fun ⟨text, htext⟩ => ?_⟩
    exact ⟨_, text, htext, rfl⟩
  · -- without a color and a brightness nothing is converted
    rw [if_neg hcolor]
    rw [Bool.or_eq_true, Bool.not_eq_true', Bool.not_eq_true'] at hcolor
    exact iff_of_true ⟨_, rfl⟩ fun h => absurd h hcolor

theorem tuya_payload_ok_iff :
    (∃ message,
      tuyaControlsPayload device (getControlsDto (stripEmptyValues controls)) = .ok message) ↔
      device.tuyaDeviceId.isNonEmpty = true ∧ device.ip.isNonEmpty = true ∧
        device.tuyaDeviceLocalKey.isNonEmpty = true ∧ HasTuyaColor device controls := by
  rw [← map_tuya_controls_ok_iff, ← get_device_ip_ok_iff,
    ← @require_field_ok_iff device.tuyaDeviceId
      s!"The Tuya device with id \"{device.externalId}\" is missing a Tuya device Id",
    ← @require_field_ok_iff device.tuyaDeviceLocalKey
      s!"The Tuya device with id \"{device.externalId}\" is missing a Tuya device local key"]
  simp only [tuyaControlsPayload, bind_ok_iff, pure, Except.pure]
  refine ⟨fun ⟨message, id, hid, ip, hip, key, hkey, payload, hpayload, _⟩ => ?_,
    fun ⟨⟨id, hid⟩, ⟨ip, hip⟩, ⟨key, hkey⟩, payload, hpayload⟩ => ?_⟩
  · exact ⟨⟨id, hid⟩, ⟨ip, hip⟩, ⟨key, hkey⟩, payload, hpayload⟩
  · exact ⟨_, id, hid, ip, hip, key, hkey, payload, hpayload, rfl⟩

omit [ColorCalls] in
theorem shelly_payload_address {message : TransportMessage}
    (h : shellyControlsPayload device controls = .ok message) :
    ∃ method url, message.address = .http method url := by
  simp only [shellyControlsPayload, bind_ok_iff, pure, Except.pure] at h
  obtain ⟨ip, -, component, -, hmessage⟩ := h
  cases hmessage
  exact ⟨_, _, rfl⟩

theorem tuya_payload_address {message : TransportMessage}
    (h : tuyaControlsPayload device controls = .ok message) :
    ∃ tuyaId ip localKey, message.address = .tuya tuyaId ip localKey := by
  simp only [tuyaControlsPayload, bind_ok_iff, pure, Except.pure] at h
  obtain ⟨tuyaId, -, ip, -, localKey, -, payload, -, hmessage⟩ := h
  cases hmessage
  exact ⟨_, _, _, rfl⟩

/-- When a brand makes messages for one protocol, a message is sent exactly when one is made and the
device has the protocol. -/
theorem set_controls_of_payload {configs : List DeviceConfig} {protocol : TransportProtocol}
    {made : Except HubError TransportMessage}
    (hpayload : getControlsPayload device (getControlsDto (stripEmptyValues controls)) =
      some <$> made)
    (haddress : ∀ message, made = .ok message → ∀ other payload,
      (sendBy other { message with payload }).isSome = true ↔ other = protocol) :
    (setControls configs device controls).isSome = true ↔
      device.transportProtocol = .value protocol ∧ ∃ message, made = .ok message := by
  unfold setControls
  rw [hpayload]
  cases made with
  | error error => exact iff_of_false nofun nofun
  | ok message =>
      show Option.isSome (match device.transportProtocol with
        | .value protocol => sendBy protocol (mapMessagePayload configs device message)
        | _ => none) = true ↔ _
      cases device.transportProtocol with
      | undefined => exact iff_of_false nofun nofun
      | null => exact iff_of_false nofun nofun
      | value other =>
          show (sendBy other (mapMessagePayload configs device message)).isSome = true ↔ _
          rw [mapMessagePayload, haddress message rfl, Optional.value.injEq]
          exact ⟨fun h => ⟨h, message, rfl⟩, fun h => h.1⟩

/-- A message is sent exactly when the brand makes one for the protocol of the device. -/
theorem set_controls_is_some_iff {configs : List DeviceConfig} :
    (setControls configs device controls).isSome = true ↔ SendsMessage device controls := by
  have hsilent (made : Except HubError (Option TransportMessage))
      (hmade : ∀ message, made ≠ .ok (some message))
      (hpayload : getControlsPayload device (getControlsDto (stripEmptyValues controls)) = made) :
      ¬ (setControls configs device controls).isSome = true := by
    unfold setControls
    rw [hpayload]
    split
    · rename_i message
      exact absurd rfl (hmade message)
    · exact nofun
  cases hbrand : device.brand with
  | undefined =>
      rw [SendsMessage, hbrand]
      exact iff_of_false (hsilent (.ok none) nofun (by rw [getControlsPayload, hbrand])) id
  | null =>
      rw [SendsMessage, hbrand]
      exact iff_of_false (hsilent (.ok none) nofun (by rw [getControlsPayload, hbrand])) id
  | value brand =>
      cases brand with
      | esp32 =>
          have hmade := @set_controls_of_payload _ _ controls configs .mqtt (.ok _)
            (by rw [getControlsPayload, hbrand]; rfl) fun message hmessage other payload => by
              cases hmessage
              cases other <;> simp [sendBy]
          rw [hmade, SendsMessage, hbrand]
          exact ⟨fun h => h.1, fun h => ⟨h, _, rfl⟩⟩
      | shelly =>
          have hmade := @set_controls_of_payload _ _ controls configs .http _
            (by rw [getControlsPayload, hbrand]) fun message hmessage other payload => by
              obtain ⟨method, url, haddress⟩ := shelly_payload_address hmessage
              unfold sendBy
              rw [haddress]
              cases other <;> simp
          rw [hmade, shelly_payload_ok_iff, SendsMessage, hbrand]
      | tuya =>
          have hmade := @set_controls_of_payload _ _ controls configs .tuya _
            (by rw [getControlsPayload, hbrand]) fun message hmessage other payload => by
              obtain ⟨tuyaId, ip, localKey, haddress⟩ := tuya_payload_address hmessage
              unfold sendBy
              rw [haddress]
              cases other <;> simp
          rw [hmade, tuya_payload_ok_iff, SendsMessage, hbrand]
      | google =>
          -- a missing IP is an error, but no message is made for the transport in any case
          rw [SendsMessage, hbrand]
          refine iff_of_false (hsilent _ ?_ rfl) id
          intro message
          rw [getControlsPayload, hbrand]
          dsimp only
          split_ifs
          · cases getDeviceIP device <;> exact nofun
          · exact nofun
      | philips =>
          rw [SendsMessage, hbrand]
          exact iff_of_false (hsilent (.ok none) nofun (by rw [getControlsPayload, hbrand])) id

end

end MyHomeHub.ControlService
