import ModbusBridge.Configuration.Config

/-!
# The connection of the MQTT client

When the client tries to connect, and how long it waits after a failure. What the link, the broker
and the clock do is an input of each call.
-/

namespace ModbusBridge

/-- What `MQTTClient` keeps about its connection. -/
structure MQTTClient where
  initialized : Bool
  lastConnectAttempt : UInt32
  connectInterval : UInt32
  connectAttempts : Int32
  lastStatusPublish : UInt32

/-- What a call of `handleConnection` meets. -/
structure Link where
  /-- `wifiManager.isConnected()` and `wifiManager.isAPMode()`. -/
  connected : Bool
  apMode : Bool
  /-- Milliseconds since the start, of which `millis()` has 32 bits. -/
  clock : Nat
  /-- `mqttClient.connected()`. -/
  session : Bool
  /-- The same two of the WiFi manager when `connect` looks. -/
  stillConnected : Bool
  stillAPMode : Bool
  /-- The test connection to the broker opens. -/
  reachable : Bool
  /-- `mqttClient.connect` succeeds without a will, and with one. -/
  simple : Bool
  withWill : Bool

/-- `millis()`. -/
def Link.millis (link : Link) : UInt32 := UInt32.ofNat link.clock

/-- What `handleConnection` has called. -/
inductive SessionCall
  | disconnect
  /-- `reconnect`, and what `connect` has returned in it, if it was called. -/
  | reconnect (connects : Option Bool)
  /-- `publishStatus("online")`, `publishRSSI` and `publishUptime`. -/
  | publishOnline
  | loop
  deriving DecidableEq

namespace MQTTClient

/-- `MIN_CONNECT_INTERVAL`. -/
def minConnectInterval : UInt32 := 5000

/-- `MAX_CONNECT_INTERVAL`. -/
def maxConnectInterval : UInt32 := 300000

/-- `STATUS_PUBLISH_INTERVAL`. -/
def statusPublishInterval : UInt32 := 60000

/-- `MAX_CONNECT_ATTEMPTS`. -/
def maxConnectAttempts : Int32 := 10

/-- The constructor. -/
def create : MQTTClient where
  initialized := false
  lastConnectAttempt := 0
  connectInterval := minConnectInterval
  connectAttempts := 0
  lastStatusPublish := 0

/-- `validateMQTTConfig`. -/
def validateMQTTConfig (lib : ArduinoJson) (config : Config) : Bool :=
  let broker := config.getString lib (ascii "mqtt_broker") []
  if broker = [] then false
  else
    let port := config.getInt lib (ascii "mqtt_port") 1883
    if port < 1 ∨ port > 65535 then false else true

/-- `begin`. -/
def begin (lib : ArduinoJson) (config : Config) (client : MQTTClient) : Bool × MQTTClient :=
  if !validateMQTTConfig lib config then (false, client)
  else (true, { client with initialized := true })

/-- `updateConnectInterval`. -/
def updateConnectInterval (client : MQTTClient) : MQTTClient :=
  { client with connectInterval := min (client.connectInterval * 2) maxConnectInterval }

/-- `connect`. -/
def connect (client : MQTTClient) (link : Link) : Bool × MQTTClient :=
  if !client.initialized then (false, client)
  else if !link.stillConnected then (false, client)
  else if link.stillAPMode then (false, client)
  else if !link.reachable then (false, client)
  else if link.simple || link.withWill then
    (true, { client with connectAttempts := 0, connectInterval := minConnectInterval })
  else (false, client)

/-- `reconnect`: the client afterwards, and what `connect` has returned, if it was called. -/
def reconnect (client : MQTTClient) (link : Link) : MQTTClient × Option Bool :=
  let client := { client with connectAttempts := client.connectAttempts + 1 }
  if client.connectAttempts > maxConnectAttempts then
    ({ client with connectInterval := maxConnectInterval, connectAttempts := 0 }, none)
  else
    let tried := client.connect link
    (if !tried.1 then tried.2.updateConnectInterval else tried.2, some tried.1)

/-- `handleConnection`: the client afterwards, and the calls made. -/
def handleConnection (client : MQTTClient) (link : Link) : MQTTClient × List SessionCall :=
  if !client.initialized then (client, [])
  else if !link.connected ∨ link.apMode then
    (client, if link.session then [.disconnect] else [])
  else if !link.session then
    if link.millis - client.lastConnectAttempt ≥ client.connectInterval then
      let after := client.reconnect link
      ({ after.1 with lastConnectAttempt := link.millis }, [.reconnect after.2, .loop])
    else (client, [.loop])
  else if link.millis - client.lastStatusPublish ≥ statusPublishInterval then
    ({ client with lastStatusPublish := link.millis }, [.publishOnline, .loop])
  else (client, [.loop])

/-! ## Runs -/

/-- A call of `reconnect`: when it began, the interval at that time, and what `connect` has
returned, if it was called. -/
structure Reconnection where
  clock : Nat
  connectInterval : UInt32
  connects : Option Bool

/-- The reconnections among the calls of `handleConnection`. -/
def reconnections (client : MQTTClient) (link : Link) (calls : List SessionCall) :
    List Reconnection :=
  calls.filterMap fun call =>
    match call with
    | .reconnect connects => some ⟨link.clock, client.connectInterval, connects⟩
    | _ => none

/-- A run of `handleConnection`: the client, and all reconnections in their order. -/
def run (client : MQTTClient) (links : List Link) : MQTTClient × List Reconnection :=
  links.foldl (fun before link =>
    let after := before.1.handleConnection link
    (after.1, before.2 ++ before.1.reconnections link after.2)) (client, [])

theorem run_concat (client : MQTTClient) (links : List Link) (link : Link) :
    client.run (links ++ [link]) =
      let before := client.run links
      let after := before.1.handleConnection link
      (after.1, before.2 ++ before.1.reconnections link after.2) := by
  simp [run]

/-- The results of `connect`, in their order. -/
def connections (history : List Reconnection) : List Bool :=
  history.filterMap Reconnection.connects

theorem connections_concat (history : List Reconnection) (last : Reconnection) :
    connections (history ++ [last]) = connections history ++ last.connects.toList := by
  rw [connections, List.filterMap_append]
  cases connects : last.connects <;> simp [connections, connects]

end MQTTClient

end ModbusBridge
