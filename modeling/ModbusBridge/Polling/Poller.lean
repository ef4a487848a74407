import ModbusBridge.Devices.InverterInterface
import ModbusBridge.MQTT.Publishing

/-!
# The poller

A poll checks the transceiver, reads the device and publishes what it has read. The availability of
the device is published when it changes: online with the first success, offline with the third
failure in a row.
-/

namespace ModbusBridge

/-! ## What the poller sees -/

/-- `AvailabilityState`. -/
inductive AvailabilityState
  | unknown
  | online
  | offline
  deriving DecidableEq

/-- What a poll meets. -/
structure Circumstances where
  config : Config
  identity : Identity
  /-- `millis()` at the beginning. -/
  now : UInt32
  /-- The Modbus client at the first check and at the second. -/
  checked : Transceiver
  tested : Transceiver
  /-- The points of `readBasic` and of `readStorage`, if it succeeds. -/
  basic : Option (List TelemetryPoint)
  storage : Option (List TelemetryPoint)
  /-- What each call of the MQTT client meets. -/
  moments : Nat → Moment

/-- `Poller`. -/
structure Poller where
  initialized : Bool
  inverter : Option Device
  lastPollTime : UInt32
  successfulPolls : UInt32
  failedPolls : UInt32
  lastError : Bytes
  consecutiveFailures : UInt32
  publishedAvailability : AvailabilityState

/-! ## Calls of the MQTT client -/

/-- What the poller asks of the MQTT client. -/
inductive Publication
  | isConnected
  | telemetry (point : TelemetryPoint)
  | json (dataType metric : Bytes) (document : Json)
  | availability (online : Bool)

/-- The call that a publication is. -/
def Publication.deliver (lib : ArduinoJson) (config : Config) (identity : Identity)
    (moment : Moment) : Publication → Delivery
  | isConnected => ⟨none, moment.connected⟩
  | telemetry point =>
      MQTTClient.publishTelemetry lib config identity moment point.name point.value point.unit true
  | json dataType metric document =>
      MQTTClient.publishJson lib config moment dataType metric (lib.serializeJson document) true
  | availability online => MQTTClient.publishAvailability lib config moment online true

/-- The calls of a poll, in their order. -/
abbrev Trace := List (Publication × Delivery)

namespace Poller

variable (lib : ArduinoJson) (here : Circumstances)

/-- The result of the next call. -/
def answer (trace : Trace) (publication : Publication) : Delivery :=
  publication.deliver lib here.config here.identity (here.moments trace.length)

/-- The calls with the next one. -/
def ask (trace : Trace) (publication : Publication) : Trace :=
  trace ++ [(publication, answer lib here trace publication)]

/-- `publishPollStatus`. -/
def publishPollStatus (poller : Poller) (success : Bool) (error : Bytes) (trace : Trace) : Trace :=
  let moment := here.moments trace.length
  let members :=
    [(ascii "success", Json.boolean success),
      (ascii "timestamp", .integer poller.lastPollTime.toNat),
      (ascii "uptime", .integer (moment.now / 1000).toNat),
      (ascii "successful_polls", .integer poller.successfulPolls.toNat),
      (ascii "failed_polls", .integer poller.failedPolls.toNat)]
  let members :=
    if !success ∧ error ≠ [] then members ++ [(ascii "error", .string error)] else members
  ask lib here trace (.json (ascii "status") (ascii "poll_status") (.object members))

/-- `publishHardwareStatus`. -/
def publishHardwareStatus (component status message : Bytes) (trace : Trace) : Trace :=
  let moment := here.moments trace.length
  let document := Json.object
    [(ascii "component", .string component),
      (ascii "status", .string status),
      (ascii "message", .string message),
      (ascii "timestamp", .integer moment.now.toNat),
      (ascii "uptime", .integer (moment.later / 1000).toNat)]
  let metric :=
    if component = ascii "MAX485" then ascii "max485_status"
    else if component = ascii "inverter" then ascii "inverter_status"
    else toLowerCase component ++ ascii "_status"
  ask lib here trace (.json (ascii "hardware") metric document)

/-- `publishTelemetryPoints`. -/
def publishTelemetryPoints (points : List TelemetryPoint) (trace : Trace) : Trace :=
  let connected := (answer lib here trace .isConnected).succeeded
  let trace := ask lib here trace .isConnected
  if !connected then trace
  else
    points.foldl
      (fun trace point => if point.value = [] then trace else ask lib here trace (.telemetry point))
      trace

/-- `readAndPublishTelemetry`. -/
def readAndPublishTelemetry (poller : Poller) (trace : Trace) : Bool × Poller × Trace :=
  match poller.inverter with
  | none => (false, { poller with lastError := ascii "No inverter instance" }, trace)
  | some _ =>
      match here.basic with
      | none => (false, { poller with lastError := ascii "Failed to read basic telemetry" }, trace)
      | some basicPoints =>
          let trace := publishTelemetryPoints lib here basicPoints trace
          let trace :=
            if here.config.getBool (ascii "read_storage_regs") false then
              match here.storage with
              | some storagePoints =>
                  if storagePoints ≠ [] then publishTelemetryPoints lib here storagePoints trace
                  else trace
              | none => trace
            else trace
          (true, poller, trace)

/-- `MAX_CONSECUTIVE_FAILURES`. -/
def maxConsecutiveFailures : UInt32 := 3

/-- `updateAvailability`. -/
def updateAvailability (poller : Poller) (pollSucceeded : Bool) (trace : Trace) : Poller × Trace :=
  if pollSucceeded then
    let poller := { poller with consecutiveFailures := 0 }
    if poller.publishedAvailability ≠ .online then
      let poller :=
        if (answer lib here trace (.availability true)).succeeded then
          { poller with publishedAvailability := .online }
        else poller
      (poller, ask lib here trace (.availability true))
    else (poller, trace)
  else
    let poller := { poller with consecutiveFailures := poller.consecutiveFailures + 1 }
    if poller.consecutiveFailures ≥ maxConsecutiveFailures ∧
        poller.publishedAvailability ≠ .offline then
      let poller :=
        if (answer lib here trace (.availability false)).succeeded then
          { poller with publishedAvailability := .offline }
        else poller
      (poller, ask lib here trace (.availability false))
    else (poller, trace)

/-- `poll`: the poller afterwards and the calls that it has made. -/
def poll (poller : Poller) : Poller × Trace :=
  if !poller.initialized then (poller, [])
  else
    let poller := { poller with lastPollTime := here.now }
    if !here.checked.isMAX485Connected then
      let trace := publishHardwareStatus lib here (ascii "MAX485") (ascii "not_connected")
        (ascii "MAX485 module not detected on DE/RE pin") []
      let trace :=
        publishPollStatus lib here poller false (ascii "MAX485 module not connected") trace
      let poller := { poller with failedPolls := poller.failedPolls + 1 }
      updateAvailability lib here poller false trace
    else
      let trace := publishHardwareStatus lib here (ascii "MAX485") (ascii "connected")
        (ascii "MAX485 module detected") []
      if !here.tested.testConnection then
        let trace := publishHardwareStatus lib here (ascii "MAX485") (ascii "not_connected")
          (ascii "MAX485 module not detected on DE/RE pin") trace
        let trace :=
          publishPollStatus lib here poller false (ascii "MAX485 module not connected") trace
        let poller := { poller with failedPolls := poller.failedPolls + 1 }
        updateAvailability lib here poller false trace
      else
        let deviceModel := here.config.getString lib (ascii "device_model") solplanetASWModel
        let deviceType := getDeviceType deviceModel
        let read := readAndPublishTelemetry lib here poller trace
        let success := read.1
        let poller := read.2.1
        let trace := read.2.2
        if success then
          let poller := { poller with successfulPolls := poller.successfulPolls + 1 }
          let trace := publishPollStatus lib here poller true [] trace
          let trace := publishHardwareStatus lib here deviceType (ascii "connected")
            (deviceModel ++ ascii " responding") trace
          updateAvailability lib here poller true trace
        else
          let poller := { poller with failedPolls := poller.failedPolls + 1 }
          let trace := publishPollStatus lib here poller false poller.lastError trace
          let trace := publishHardwareStatus lib here deviceType (ascii "not_responding")
            (ascii "No response from configured device") trace
          updateAvailability lib here poller false trace

/-! ## Setting up -/

/-- The constructor. -/
def create : Poller where
  initialized := false
  inverter := none
  lastPollTime := 0
  successfulPolls := 0
  failedPolls := 0
  lastError := []
  consecutiveFailures := 0
  publishedAvailability := .unknown

/-- `initializeInverter`, for a device whose `begin` gives `starts`. -/
def initializeInverter (poller : Poller) (config : Config) (starts : Bool) : Bool × Poller :=
  let model := config.getString lib (ascii "device_model") solplanetASWModel
  let poller := { poller with inverter := ModbusBridge.create model }
  if poller.inverter.isNone then
    (false, { poller with lastError := ascii "Unknown inverter model: " ++ model })
  else if !starts then (false, { poller with lastError := ascii "Inverter initialization failed" })
  else (true, poller)

/-- `begin`, beside a Modbus client that is initialized or not. -/
def begin (poller : Poller) (modbusInitialized : Bool) (config : Config) (starts : Bool) :
    Bool × Poller :=
  if poller.initialized then (true, poller)
  else if !modbusInitialized then (false, poller)
  else
    let inverter := initializeInverter lib poller config starts
    if !inverter.1 then (false, inverter.2)
    else (true, { inverter.2 with initialized := true })

/-- The state of a poller after `begin` has succeeded and before the first poll. -/
structure Fresh (poller : Poller) : Prop where
  initialized : poller.initialized = true
  inverter : poller.inverter.isSome = true
  noFailures : poller.consecutiveFailures = 0
  unpublished : poller.publishedAvailability = .unknown

/-- However often `begin` has failed before, it leaves a fresh poller when it succeeds. -/
theorem begin_fresh {poller : Poller} (idle : poller.initialized = false)
    (noFailures : poller.consecutiveFailures = 0)
    (unpublished : poller.publishedAvailability = .unknown) (modbusInitialized : Bool)
    (config : Config) (starts : Bool) :
    let result := poller.begin lib modbusInitialized config starts
    if result.1 then result.2.Fresh
    else result.2.initialized = false ∧ result.2.consecutiveFailures = 0 ∧
      result.2.publishedAvailability = .unknown := by
  rw [begin, initializeInverter]
  simp only [idle, Bool.false_eq_true, if_false]
  cases modbusInitialized with
  | false => simp [idle, noFailures, unpublished]
  | true =>
      cases made : ModbusBridge.create
          (config.getString lib (ascii "device_model") solplanetASWModel) with
      | none => simp [noFailures, unpublished]
      | some device =>
          cases starts with
          | false => simp [noFailures, unpublished]
          | true => exact ⟨rfl, rfl, noFailures, unpublished⟩

end Poller

end ModbusBridge
