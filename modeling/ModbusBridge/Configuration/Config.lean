import ModbusBridge.Configuration.ArduinoJson
import ModbusBridge.Configuration.LittleFS

/-!
# The configuration

A JSON document in memory, and the file it is saved to. Only a valid configuration is saved.
-/

namespace ModbusBridge

/-! ## Device models -/

/-- `DeviceInfo`. -/
structure DeviceInfo where
  model : Bytes
  displayName : Bytes
  type : Bytes

/-- `SOLPLANET_ASW_MODEL`, also `DEFAULT_DEVICE_MODEL`. -/
def solplanetASWModel : Bytes := ascii "solplanet_asw_gen"

/-- `HIKING_DDS238_MODEL`. -/
def hikingDDS238Model : Bytes := ascii "hiking_dds238"

/-- `DDS238_SIMULATOR_MODEL`. -/
def dds238SimulatorModel : Bytes := ascii "dds238_simulator"

/-- `SUPPORTED_DEVICES`. -/
def supportedDevices : List DeviceInfo :=
  [⟨solplanetASWModel, ascii "SolPlanet ASW (GEN & HYBRID)", ascii "inverter"⟩,
    ⟨hikingDDS238Model, ascii "Hiking DDS238 Smart Meter", ascii "meter"⟩,
    ⟨dds238SimulatorModel, ascii "DDS238 Energy Meter Simulator", ascii "meter"⟩]

/-! ## The class -/

/-- `Config`. -/
structure Config where
  configPath : Bytes
  document : Json
  isLoaded : Bool

namespace Config

/-- `getString`. -/
def getString (lib : ArduinoJson) (config : Config) (key default : Bytes) : Bytes :=
  if !config.isLoaded ∨ (config.document.member key).isNull then default
  else (config.document.member key).asString lib

/-- `getInt`. -/
def getInt (lib : ArduinoJson) (config : Config) (key : Bytes) (default : Int) : Int :=
  if !config.isLoaded ∨ (config.document.member key).isNull then default
  else (config.document.member key).asInt lib

/-- `getBool`. -/
def getBool (config : Config) (key : Bytes) (default : Bool) : Bool :=
  if !config.isLoaded ∨ (config.document.member key).isNull then default
  else (config.document.member key).asBool

/-- `config[key] = value`, as all setters do. -/
def set (config : Config) (key : Bytes) (value : Json) : Config :=
  { config with document := config.document.setMember key value }

/-- `setString`. -/
def setString (config : Config) (key value : Bytes) : Config := config.set key (.string value)

/-- `setInt`. -/
def setInt (config : Config) (key : Bytes) (value : Int) : Config := config.set key (.integer value)

/-- `setBool`. -/
def setBool (config : Config) (key : Bytes) (value : Bool) : Config :=
  config.set key (.boolean value)

/-- The members that `setDefaults` assigns, in their order. -/
def defaults : List (Bytes × Json) :=
  [(ascii "wifi_ssid", .string []),
    (ascii "wifi_password", .string []),
    (ascii "ap_enabled", .boolean true),
    (ascii "ap_ssid", .string (ascii "modbusbridge-setup")),
    (ascii "ap_password", .string (ascii "setup1234")),
    (ascii "hostname", .string (ascii "modbusbridge")),
    (ascii "log_level", .string (ascii "info")),
    (ascii "mqtt_broker", .string (ascii "192.168.1.10")),
    (ascii "mqtt_port", .integer 1883),
    (ascii "mqtt_username", .string []),
    (ascii "mqtt_password", .string []),
    (ascii "mqtt_topic_prefix", .string (ascii "home")),
    (ascii "device_type", .string (ascii "inverter")),
    (ascii "device_id", .string (ascii "auto")),
    (ascii "mqtt_retain", .boolean true),
    (ascii "mqtt_json_format", .boolean true),
    (ascii "retain", .boolean true),
    (ascii "rtu_addr", .integer 1),
    (ascii "baudrate", .integer 9600),
    (ascii "parity", .string (ascii "N")),
    (ascii "data_bits", .integer 8),
    (ascii "stop_bits", .integer 1),
    (ascii "rs485_de_re_pin", .integer 4),
    (ascii "poll_interval_sec", .integer 10),
    (ascii "device_model", .string solplanetASWModel),
    (ascii "read_storage_regs", .boolean false)]

/-- `setDefaults`. -/
def setDefaults (config : Config) : Config :=
  defaults.foldl (fun config member => config.set member.1 member.2) config

/-- `isValidDeviceModel`. -/
def isValidDeviceModel (fs : LittleFS) (model : Bytes) : Bool :=
  if (ascii "json:").isPrefixOf model then
    let deviceId := model.drop 5
    fs.fileExists (ascii "/devices/" ++ deviceId ++ ascii ".json")
  else supportedDevices.any fun device => model == device.model

/-- `isValidParity`. -/
def isValidParity (parity : Bytes) : Bool :=
  parity == ascii "N" || parity == ascii "E" || parity == ascii "O"

/-- What `validate` checks apart from the device model. -/
def validSettings (lib : ArduinoJson) (config : Config) : Bool :=
  let parity := config.getString lib (ascii "parity") []
  let dataBits := config.getInt lib (ascii "data_bits") 8
  let stopBits := config.getInt lib (ascii "stop_bits") 1
  let baudrate := config.getInt lib (ascii "baudrate") 0
  let rtuAddr := config.getInt lib (ascii "rtu_addr") 0
  let pollInterval := config.getInt lib (ascii "poll_interval_sec") 0
  isValidParity parity && (dataBits == 7 || dataBits == 8) && (stopBits == 1 || stopBits == 2) &&
    (baudrate == 9600 || baudrate == 19200 || baudrate == 38400 || baudrate == 57600 ||
      baudrate == 115200) &&
    (1 ≤ rtuAddr && rtuAddr ≤ 247) && (1 ≤ pollInterval && pollInterval ≤ 3600)

/-- `validate`. -/
def validate (lib : ArduinoJson) (config : Config) (fs : LittleFS) : Bool :=
  isValidDeviceModel fs (config.getString lib (ascii "device_model") []) &&
    config.validSettings lib

/-- `save`: whether it succeeds, and the file system afterwards. -/
def save (lib : ArduinoJson) (config : Config) (fs : LittleFS) (room : Room) : Bool × LittleFS :=
  if !config.validate lib fs then (false, fs)
  else
    match room with
    | none => (false, fs)
    | some room =>
        let written := (lib.serializeJsonPretty config.document).take room
        (written.length ≠ 0, fs.put config.configPath written)

/-- `factoryReset`: whether it succeeds, the configuration and the file system afterwards. -/
def factoryReset (lib : ArduinoJson) (config : Config) (fs : LittleFS) (room : Room) :
    Bool × Config × LittleFS :=
  let fs := if fs.fileExists config.configPath then fs.remove config.configPath else fs
  let config := { config.setDefaults with isLoaded := true }
  let saved := config.save lib fs room
  (saved.1, config, saved.2)

/-- What the first start makes of a missing file. -/
def initial : Config := setDefaults ⟨ascii "/config.json", .null, true⟩

/-! ## Reading what was set -/

variable {config : Config} {key other : Bytes}

theorem getString_setString_self (lib : ArduinoJson) (loaded : config.isLoaded = true)
    (writable : config.document.Writable) (value default : Bytes) :
    (config.setString key value).getString lib key default = value := by
  simp [getString, setString, set, loaded, Json.member_setMember_self writable, Json.isNull,
    Json.asString]

theorem getString_set_of_ne (lib : ArduinoJson) (different : other ≠ key) (value : Json)
    (default : Bytes) :
    (config.set key value).getString lib other default = config.getString lib other default := by
  simp [getString, set, Json.member_setMember_of_ne different]

theorem getInt_set_of_ne (lib : ArduinoJson) (different : other ≠ key) (value : Json)
    (default : Int) :
    (config.set key value).getInt lib other default = config.getInt lib other default := by
  simp [getInt, set, Json.member_setMember_of_ne different]

/-- The device model does not take part in the other checks. -/
theorem validSettings_setString_model (lib : ArduinoJson) (config : Config) (model : Bytes) :
    (config.setString (ascii "device_model") model).validSettings lib =
      config.validSettings lib := by
  unfold validSettings setString
  rw [getString_set_of_ne lib (by decide), getInt_set_of_ne lib (by decide),
    getInt_set_of_ne lib (by decide), getInt_set_of_ne lib (by decide),
    getInt_set_of_ne lib (by decide), getInt_set_of_ne lib (by decide)]

end Config

end ModbusBridge
