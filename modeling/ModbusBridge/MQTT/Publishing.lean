import ModbusBridge.Devices.InverterFactory

/-!
# Publishing

The functions of the MQTT client that publish. Each looks at the connection, and hands one message
to the broker if there is one.
-/

namespace ModbusBridge

/-- A message as it is handed to the broker. -/
structure Message where
  topic : Bytes
  payload : Bytes
  retain : Bool

/-- What a call of the client meets. -/
structure Moment where
  /-- `isConnected()`. -/
  connected : Bool
  /-- What `mqttClient.publish` returns. -/
  accepted : Bool
  /-- `millis()`, and `millis()` after that. -/
  now : UInt32
  later : UInt32

/-- The message that a call hands to the broker, if any, and the result of the call. -/
structure Delivery where
  message : Option Message
  succeeded : Bool

/-- The identifiers that the WiFi manager makes of the MAC address. -/
structure Identity where
  deviceId : Bytes
  macAddress : Bytes

namespace MQTTClient

/-- `getTopicPrefix`. -/
def getTopicPrefix (lib : ArduinoJson) (config : Config) : Bytes :=
  config.getString lib (ascii "mqtt_topic_prefix") (ascii "home")

/-- `getDeviceType`. -/
def getDeviceType (lib : ArduinoJson) (config : Config) : Bytes :=
  ModbusBridge.getDeviceType (config.getString lib (ascii "device_model") solplanetASWModel)

/-- `buildGenericTopic`. -/
def buildGenericTopic (lib : ArduinoJson) (config : Config) (dataType metric : Bytes) : Bytes :=
  getTopicPrefix lib config ++ ascii "/" ++ getDeviceType lib config ++ ascii "/" ++ dataType ++
    ascii "/" ++ metric

/-- `getDeviceId`. -/
def getDeviceId (lib : ArduinoJson) (config : Config) (identity : Identity) : Bytes :=
  let deviceIdConfig := config.getString lib (ascii "device_id") (ascii "auto")
  if deviceIdConfig = ascii "auto" ∨ deviceIdConfig = [] then identity.deviceId
  else if deviceIdConfig = ascii "mac" then identity.macAddress
  else if (ascii "custom:").isPrefixOf deviceIdConfig then deviceIdConfig.drop 7
  else if deviceIdConfig = ascii "serial" then identity.deviceId
  else deviceIdConfig

/-- `buildTopic`. -/
def buildTopic (lib : ArduinoJson) (config : Config) (identity : Identity) (metric : Bytes) :
    Bytes :=
  config.getString lib (ascii "mqtt_topic_prefix") (ascii "home/solar") ++ ascii "/" ++
    getDeviceId lib config identity ++ ascii "/" ++ metric

/-- `publish`. -/
def publish (lib : ArduinoJson) (config : Config) (identity : Identity) (moment : Moment)
    (metric value : Bytes) (retain : Bool) : Delivery :=
  if !moment.connected then ⟨none, false⟩
  else
    let useRetain := retain && config.getBool (ascii "retain") true
    ⟨some ⟨buildTopic lib config identity metric, value, useRetain⟩, moment.accepted⟩

/-- The body that the other functions share. -/
def publishGeneric (lib : ArduinoJson) (config : Config) (moment : Moment)
    (dataType metric payload : Bytes) (retain : Bool) : Delivery :=
  if !moment.connected then ⟨none, false⟩
  else
    let useRetain := retain && config.getBool (ascii "mqtt_retain") true
    ⟨some ⟨buildGenericTopic lib config dataType metric, payload, useRetain⟩, moment.accepted⟩

/-- `publishStatus(metric, value, retain)`. -/
def publishStatus (lib : ArduinoJson) (config : Config) (moment : Moment) (metric value : Bytes)
    (retain : Bool) : Delivery :=
  publishGeneric lib config moment (ascii "status") metric value retain

/-- `publishDiagnostics`. -/
def publishDiagnostics (lib : ArduinoJson) (config : Config) (moment : Moment)
    (metric value : Bytes) (retain : Bool) : Delivery :=
  publishGeneric lib config moment (ascii "diagnostics") metric value retain

/-- `publishHardware`. -/
def publishHardware (lib : ArduinoJson) (config : Config) (moment : Moment)
    (metric value : Bytes) (retain : Bool) : Delivery :=
  publishGeneric lib config moment (ascii "hardware") metric value retain

/-- `publishConfig`. -/
def publishConfig (lib : ArduinoJson) (config : Config) (moment : Moment)
    (metric value : Bytes) (retain : Bool) : Delivery :=
  publishGeneric lib config moment (ascii "config") metric value retain

/-- `publishAvailability`. -/
def publishAvailability (lib : ArduinoJson) (config : Config) (moment : Moment) (online : Bool)
    (retain : Bool) : Delivery :=
  publishStatus lib config moment (ascii "availability")
    (if online then ascii "online" else ascii "offline") retain

/-- `publishJson`. -/
def publishJson (lib : ArduinoJson) (config : Config) (moment : Moment)
    (dataType metric jsonPayload : Bytes) (retain : Bool) : Delivery :=
  publishGeneric lib config moment dataType metric jsonPayload retain

/-- The document of a value with its unit. The value is raw JSON. -/
def valueDocument (lib : ArduinoJson) (value unit deviceId : Bytes) (now : UInt32) : Bytes :=
  ascii "\x7b\"value\":" ++ value ++
    ascii ",\"unit\":" ++ lib.serializeJson (.string unit) ++
    ascii ",\"timestamp\":" ++ lib.serializeJson (.integer now.toNat) ++
    ascii ",\"device_id\":" ++ lib.serializeJson (.string deviceId) ++ ascii "\x7d"

/-- `publishTelemetry`. -/
def publishTelemetry (lib : ArduinoJson) (config : Config) (identity : Identity) (moment : Moment)
    (metric value unit : Bytes) (retain : Bool) : Delivery :=
  let payload :=
    if config.getBool (ascii "mqtt_json_format") true ∧ unit ≠ [] then
      valueDocument lib value unit (getDeviceId lib config identity) moment.now
    else value
  publishGeneric lib config moment (ascii "telemetry") metric payload retain

end MQTTClient

end ModbusBridge
