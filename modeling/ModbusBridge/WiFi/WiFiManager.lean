import ModbusBridge.Configuration.Config
import ModbusBridge.Library.StepSystem

/-!
# The WiFi manager

A station that reconnects with growing intervals, and an access point of its own to fall back to.
What the radio and the clock do is an input of each call.
-/

namespace ModbusBridge

/-- `WiFiManager`, with the static variables of `handleConnection`. -/
structure WiFiManager where
  apMode : Bool
  initialized : Bool
  lastReconnectAttempt : UInt32
  reconnectInterval : UInt32
  reconnectAttempts : Int32
  ntpSynced : Bool
  mdnsSetupDone : Bool
  ntpSetupDone : Bool
  lastIP : UInt32

/-- What the radio and the clock do in a call. -/
structure Air where
  /-- `WiFi.status() == WL_CONNECTED`, when `handleConnection` looks. -/
  linked : Bool
  /-- `millis()`. -/
  now : UInt32
  /-- The same status when `connectSTA` has waited for it. -/
  associated : Bool
  /-- The same status when `setupNTP` looks. -/
  steady : Bool
  /-- The time arrives while `setupNTP` waits for it. -/
  timed : Bool
  /-- What `softAP` returns. -/
  softAP : Bool
  /-- `WiFi.localIP()`. -/
  localIP : UInt32

/-- What a call makes the radio do. -/
inductive RadioCall
  | connectSTA
  | softAP (ssid : Bytes) (password : Option Bytes)
  | processNextRequest
  | setupmDNS
  deriving DecidableEq

namespace WiFiManager

/-- `MIN_RECONNECT_INTERVAL`. -/
def minReconnectInterval : UInt32 := 5000

/-- `MAX_RECONNECT_INTERVAL`. -/
def maxReconnectInterval : UInt32 := 300000

/-- `MAX_RECONNECT_ATTEMPTS`. -/
def maxReconnectAttempts : Int32 := 10

/-- The constructor. -/
def create : WiFiManager where
  apMode := false
  initialized := false
  lastReconnectAttempt := 0
  reconnectInterval := minReconnectInterval
  reconnectAttempts := 0
  ntpSynced := false
  mdnsSetupDone := false
  ntpSetupDone := false
  lastIP := 0

/-- `setupNTP`. -/
def setupNTP (manager : WiFiManager) (air : Air) : WiFiManager :=
  if manager.ntpSynced then manager
  else if manager.apMode ∨ !air.steady then manager
  else { manager with ntpSynced := air.timed }

/-- `updateReconnectInterval`. -/
def updateReconnectInterval (manager : WiFiManager) : WiFiManager :=
  { manager with reconnectInterval := min (manager.reconnectInterval * 2) maxReconnectInterval }

theorem ofNat_succ_gt_iff {count : Nat} (small : count + 1 < 2 ^ 31) :
    Int32.ofNat count + 1 > maxReconnectAttempts ↔ 10 ≤ count := by
  have sum : Int32.ofNat count + 1 = Int32.ofNat (count + 1) := (Int32.ofNat_add count 1).symm
  rw [sum, gt_iff_lt, Int32.lt_iff_toInt_lt, Int32.toInt_ofNat_of_lt small]
  have bound : maxReconnectAttempts.toInt = 10 := by decide
  rw [bound]
  omega

variable (lib : ArduinoJson) (config : Config)

/-- `connectSTA`. -/
def connectSTA (manager : WiFiManager) (air : Air) : Bool × WiFiManager :=
  let ssid := config.getString lib (ascii "wifi_ssid") []
  if ssid = [] then (false, manager)
  else if air.associated then
    let manager :=
      { manager with
        apMode := false
        reconnectAttempts := 0
        reconnectInterval := minReconnectInterval }
    (true, manager.setupNTP air)
  else (false, manager)

/-- The access point that `startAP` asks for. A password that is too short is left out. -/
def accessPoint : RadioCall :=
  let apPassword := config.getString lib (ascii "ap_password") (ascii "setup1234")
  .softAP (config.getString lib (ascii "ap_ssid") (ascii "modbusbridge-setup"))
    (if apPassword.length ≥ 8 then some apPassword else none)

/-- `startAP`. -/
def startAP (manager : WiFiManager) (air : Air) : Bool × WiFiManager :=
  if air.softAP then (true, { manager with apMode := true }) else (false, manager)

/-- `begin`: its result, the manager and the calls of the radio. -/
def begin (manager : WiFiManager) (air : Air) : Bool × WiFiManager × List RadioCall :=
  if manager.initialized then (true, manager, [])
  else
    let joined := connectSTA lib config manager air
    if joined.1 then (true, { joined.2 with initialized := true }, [.connectSTA])
    else if config.getBool (ascii "ap_enabled") true then
      let started := joined.2.startAP air
      (started.1, { started.2 with initialized := true }, [.connectSTA, accessPoint lib config])
    else (false, { joined.2 with initialized := true }, [.connectSTA])

/-- `reconnect`. -/
def reconnect (manager : WiFiManager) (air : Air) : WiFiManager × List RadioCall :=
  let manager := { manager with reconnectAttempts := manager.reconnectAttempts + 1 }
  if manager.reconnectAttempts > maxReconnectAttempts then
    if config.getBool (ascii "ap_enabled") true then
      ((manager.startAP air).2, [accessPoint lib config])
    else (manager, [])
  else
    let joined := connectSTA lib config manager air
    (if !joined.1 then joined.2.updateReconnectInterval else joined.2, [.connectSTA])

/-- `handleConnection`. -/
def handleConnection (manager : WiFiManager) (air : Air) : WiFiManager × List RadioCall :=
  if !manager.initialized then (manager, [])
  else if manager.apMode then (manager, [.processNextRequest])
  else if !air.linked then
    if air.now - manager.lastReconnectAttempt ≥ manager.reconnectInterval then
      let after := reconnect lib config manager air
      ({ after.1 with lastReconnectAttempt := air.now }, after.2)
    else (manager, [])
  else
    let announces := (!manager.mdnsSetupDone || air.localIP != manager.lastIP) && air.localIP != 0
    let manager :=
      if announces then { manager with mdnsSetupDone := true, lastIP := air.localIP } else manager
    let manager :=
      if !manager.ntpSetupDone && air.localIP != 0 && manager.initialized then
        { manager.setupNTP air with ntpSetupDone := true }
      else manager
    (manager, if announces then [.setupmDNS] else [])

/-! ## Runs -/

/-- A call of the manager. -/
inductive Call
  | begin (air : Air)
  | handleConnection (air : Air)

/-- The manager under its calls. -/
def managing : StepSystem WiFiManager Call where
  start := create
  next manager
    | .begin air => some (begin lib config manager air).2.1
    | .handleConnection air => some (handleConnection lib config manager air).1

/-- The states that calls can lead to. -/
abbrev Reachable (manager : WiFiManager) : Prop :=
  (managing lib config).Reaches (fun _ _ => True) manager

variable {lib config}

theorem reachable_begin (air : Air) : Reachable lib config (begin lib config create air).2.1 :=
  .step .start trivial
    (show (managing lib config).next create (.begin air) = some _ from rfl)

theorem Reachable.handleConnection {manager : WiFiManager}
    (reachable : Reachable lib config manager) (air : Air) :
    Reachable lib config (handleConnection lib config manager air).1 :=
  .step reachable trivial
    (show (managing lib config).next manager (.handleConnection air) = some _ from rfl)

end WiFiManager

end ModbusBridge
