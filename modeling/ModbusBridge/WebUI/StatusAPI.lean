import ModbusBridge.Devices.GenericModbusDevice
import ModbusBridge.Library.JsonTree
import ModbusBridge.WebUI.Clients
import ModbusBridge.WebUI.History
import ModbusBridge.WiFi.WiFiManager

/-!
# The status as JSON

`handleAPIStatus` concatenates its answer. Numbers, truth values, addresses and times need no
escapes; the SSID is put between quotes as it is, whatever the user or an access point has chosen.
-/

namespace ModbusBridge

/-! ## What the answer is made of -/

/-- `IPAddress::toString`. The first byte of an address is the lowest one. -/
def IPAddress.toString (ip : UInt32) : Bytes :=
  decimal (ip % 256).toNat ++ ascii "." ++ decimal (ip / 256 % 256).toNat ++ ascii "." ++
    decimal (ip / 65536 % 256).toNat ++ ascii "." ++ decimal (ip / 16777216).toNat

/-- `%02lu`. -/
def twoDigits (n : Nat) : Bytes := if n < 10 then 48 :: decimal n else decimal n

/-- `%02lu:%02lu:%02lu`, or what `strftime` writes for `%H:%M:%S`. -/
def timeOfDay (hours minutes seconds : Nat) : Bytes :=
  twoDigits hours ++ ascii ":" ++ twoDigits minutes ++ ascii ":" ++ twoDigits seconds

/-- What the radio reports. -/
structure Radio where
  /-- `WiFi.status() == WL_CONNECTED`. -/
  linked : Bool
  /-- `WiFi.SSID()`. -/
  ssid : Bytes
  /-- `WiFi.localIP()`. -/
  localIP : UInt32
  /-- `WiFi.softAPIP()`. -/
  softAPIP : UInt32
  /-- `WiFi.RSSI()`. -/
  rssi : Int

/-- What the clock reports. -/
structure Clock where
  millis : UInt32
  /-- `time(nullptr)`. -/
  time : Int
  /-- The hour, the minute and the second of `localtime`. -/
  localtime : Nat × Nat × Nat

namespace WiFiManager

variable (lib : ArduinoJson) (config : Config) (manager : WiFiManager) (radio : Radio)
  (clock : Clock)

/-- `isConnected`. -/
def isConnected : Bool := manager.initialized && !manager.apMode && radio.linked

/-- `getIPAddress`. -/
def getIPAddress : Bytes :=
  if manager.apMode then IPAddress.toString radio.softAPIP
  else if radio.linked ∧ radio.localIP ≠ 0 then IPAddress.toString radio.localIP
  else ascii "0.0.0.0"

/-- `getRSSI`. -/
def getRSSI : Int := if manager.isConnected radio then radio.rssi else 0

/-- `getSSID`. -/
def getSSID : Bytes :=
  if manager.apMode then config.getString lib (ascii "ap_ssid") (ascii "modbusbridge-setup")
  else if radio.linked then radio.ssid
  else []

/-- `isNTPSynced`. -/
def isNTPSynced : Bool := manager.ntpSynced && !manager.apMode && manager.isConnected radio

/-- The time since the start, in a buffer of ten bytes. -/
def relativeTime : Bytes :=
  let seconds := clock.millis.toNat / 1000
  (timeOfDay (seconds / 3600) (seconds % 3600 / 60) (seconds % 60)).take 9

/-- `getCurrentTime`. -/
def getCurrentTime : Bytes :=
  if !manager.isNTPSynced radio then relativeTime clock
  else if clock.time > 1000000000 then
    timeOfDay clock.localtime.1 clock.localtime.2.1 clock.localtime.2.2
  else relativeTime clock

end WiFiManager

namespace WebUI

/-- `DEVICE_NAME`. -/
def deviceName : Bytes := ascii "Modbus-Bridge"

/-- `String` of a `bool`, as the handlers write it. -/
def truthText (value : Bool) : Bytes := if value then ascii "true" else ascii "false"

/-- What `handleAPIStatus` looks at. -/
structure StatusSource where
  /-- `FIRMWARE_VERSION`, from the build. -/
  firmwareVersion : Bytes
  manager : WiFiManager
  config : Config
  radio : Radio
  clock : Clock
  /-- `ESP.getFreeHeap()`. -/
  freeHeap : UInt32
  logLevel : ESPLogger.LogLevel
  clients : ClientTable
  /-- `millis()`, when a client of the table is written. -/
  clientMillis : Slot → UInt32
  logBufferCount : Nat

/-- A client in `getWebSocketClientsStatus`. -/
def clientStatus (client : WebSocketClient) (now : UInt32) : Bytes :=
  ascii "\x7b\"id\":" ++ decimal client.id.toNat ++
    ascii ",\"ip\":\"" ++ IPAddress.toString client.remoteIP ++ ascii "\"" ++
    ascii ",\"connected\":" ++ decimal ((now - client.connectTime) / 1000).toNat ++
    ascii ",\"messages\":" ++ decimal client.messageCount.toNat ++ ascii "\x7d"

/-- One turn of the loop of `getWebSocketClientsStatus`, on the text and the variable `first`. -/
def addClientStatus (source : StatusSource) (status : Bytes × Bool) (i : Slot) : Bytes × Bool :=
  let client := source.clients.wsClients i
  if client.connected then
    let separated := if !status.2 then status.1 ++ ascii "," else status.1
    (separated ++ clientStatus client (source.clientMillis i), false)
  else status

/-- `getWebSocketClientsStatus`. `connectedClients` is a `uint8_t`. -/
def getWebSocketClientsStatus (source : StatusSource) : Bytes :=
  let status := ascii "\x7b\"connectedClients\":" ++
    decimal (source.clients.connectedClients % 256).toNat ++ ascii ",\"clients\":["
  ((List.finRange maxWebSocketClients).foldl (addClientStatus source) (status, true)).1 ++
    ascii "]\x7d"

/-- `handleAPIStatus`: the text that it sends, piece by piece. -/
def handleAPIStatus (lib : ArduinoJson) (source : StatusSource) : Bytes :=
  List.flatten
    [ascii "\x7b",
      ascii "\"device\":\"" ++ deviceName ++ ascii "\",",
      ascii "\"version\":\"" ++ source.firmwareVersion ++ ascii "\",",
      ascii "\"uptime\":" ++ decimal (source.clock.millis / 1000).toNat ++ ascii ",",
      ascii "\"freeHeap\":" ++ decimal source.freeHeap.toNat ++ ascii ",",
      ascii "\"logLevel\":\"" ++ ESPLogger.logLevelToString source.logLevel ++ ascii "\",",
      ascii "\"wifi\":\x7b",
      ascii "\"connected\":" ++ truthText (source.manager.isConnected source.radio) ++ ascii ",",
      ascii "\"ssid\":\"" ++ source.manager.getSSID lib source.config source.radio ++ ascii "\",",
      ascii "\"ip\":\"" ++ source.manager.getIPAddress source.radio ++ ascii "\",",
      ascii "\"rssi\":" ++ GenericModbusDevice.decimalInt (source.manager.getRSSI source.radio),
      ascii "\x7d,",
      ascii "\"ntp\":\x7b",
      ascii "\"synced\":" ++ truthText (source.manager.isNTPSynced source.radio) ++ ascii ",",
      ascii "\"time\":\"" ++ source.manager.getCurrentTime source.radio source.clock ++ ascii "\"",
      ascii "\x7d,",
      ascii "\"websocket\":" ++ getWebSocketClientsStatus source ++ ascii ",",
      ascii "\"logBuffer\":\x7b\"count\":" ++ decimal source.logBufferCount ++
        ascii ",\"size\":" ++ decimal logBufferSize ++ ascii "\x7d",
      ascii "\x7d"]

/-! ## Pieces that need no escapes -/

/-- ASCII characters that need no escapes. -/
def Simple (text : Bytes) : Prop :=
  ∀ byte ∈ text, (32 ≤ byte ∧ byte ≠ 34 ∧ byte ≠ 92) ∧ byte < 128

instance : DecidablePred Simple := fun text =>
  List.decidableBAll (fun byte => (32 ≤ byte ∧ byte ≠ 34 ∧ byte ≠ 92) ∧ byte < 128) text

variable {text front back : Bytes} {source : StatusSource}

theorem Simple.plain (simple : Simple text) : JsonText.Plain text :=
  fun byte listed => (simple byte listed).1

theorem Simple.valid (simple : Simple text) : Utf8.Valid text :=
  Utf8.valid_of_ascii fun byte listed => (simple byte listed).2

theorem Simple.append (early : Simple front) (late : Simple back) : Simple (front ++ back) :=
  fun byte listed => (List.mem_append.mp listed).elim (early byte) (late byte)

theorem Simple.quoted (simple : Simple text) : Utf8.Valid (JsonText.quoted text) :=
  JsonTree.valid_quoted_iff.mpr simple.valid

theorem digits_decimal (n : Nat) : JsonTree.Digits (decimal n) where
  nonempty := by simp [decimal, Nat.toDigits_ne_nil]
  all _ := isDigit_of_mem_decimal
  leading zero := by
    rw [eq_zero_of_head_decimal zero]
    rfl

theorem simple_decimal (n : Nat) : Simple (decimal n) := by
  intro byte listed
  have digit := isDigit_of_mem_decimal listed
  grind [JsonText.isDigit]

theorem simple_toString (ip : UInt32) : Simple (IPAddress.toString ip) :=
  have dot : Simple (ascii ".") := by decide
  ((((((simple_decimal _).append dot).append (simple_decimal _)).append dot).append
    (simple_decimal _)).append dot).append (simple_decimal _)

theorem simple_twoDigits (n : Nat) : Simple (twoDigits n) := by
  rw [twoDigits]
  split
  · exact Simple.append (by decide : Simple [48]) (simple_decimal n)
  · exact simple_decimal n

theorem simple_timeOfDay (hours minutes seconds : Nat) :
    Simple (timeOfDay hours minutes seconds) :=
  have colon : Simple (ascii ":") := by decide
  ((((simple_twoDigits _).append colon).append (simple_twoDigits _)).append colon).append
    (simple_twoDigits _)

theorem simple_getIPAddress (manager : WiFiManager) (radio : Radio) :
    Simple (manager.getIPAddress radio) := by
  rw [WiFiManager.getIPAddress]
  split_ifs
  · exact simple_toString _
  · exact simple_toString _
  · decide

theorem simple_getCurrentTime (manager : WiFiManager) (radio : Radio) (clock : Clock) :
    Simple (manager.getCurrentTime radio clock) := by
  have relative : Simple (WiFiManager.relativeTime clock) :=
    fun byte listed => simple_timeOfDay _ _ _ byte (List.mem_of_mem_take listed)
  rw [WiFiManager.getCurrentTime]
  split_ifs
  · exact relative
  · exact simple_timeOfDay _ _ _
  · exact relative

theorem simple_logLevelToString (level : ESPLogger.LogLevel) :
    Simple (ESPLogger.logLevelToString level) := by
  cases level <;> decide

theorem writes_decimal (n : Nat) : JsonTree.Writes (decimal n) (.number (decimal n)) :=
  JsonTree.writes_number (digits_decimal n)

theorem writes_decimalInt (value : Int) :
    JsonTree.Writes (GenericModbusDevice.decimalInt value)
      (.number (GenericModbusDevice.decimalInt value)) := by
  rw [GenericModbusDevice.decimalInt]
  split
  · exact JsonTree.writes_negative (digits_decimal _)
  · exact writes_decimal _

theorem simple_decimalInt (value : Int) : Simple (GenericModbusDevice.decimalInt value) := by
  rw [GenericModbusDevice.decimalInt]
  split
  · exact Simple.append (by decide) (simple_decimal _)
  · exact simple_decimal _

theorem writes_truthText (value : Bool) : JsonTree.Writes (truthText value) (.truth value) := by
  cases value
  · exact JsonTree.writes_false
  · exact JsonTree.writes_true

theorem simple_truthText (value : Bool) : Simple (truthText value) := by
  cases value <;> decide

/-! ## The clients -/

/-- The clients that are listed. -/
def listedClients (source : StatusSource) : List Slot :=
  (List.finRange maxWebSocketClients).filter fun i => (source.clients.wsClients i).connected

/-- The members of a client. -/
def clientTexts (source : StatusSource) (i : Slot) : List (Bytes × Bytes) :=
  let client := source.clients.wsClients i
  [(ascii "id", decimal client.id.toNat),
    (ascii "ip", JsonText.quoted (IPAddress.toString client.remoteIP)),
    (ascii "connected", decimal ((source.clientMillis i - client.connectTime) / 1000).toNat),
    (ascii "messages", decimal client.messageCount.toNat)]

theorem clientStatus_eq (source : StatusSource) (i : Slot) :
    clientStatus (source.clients.wsClients i) (source.clientMillis i) =
      JsonText.objectText (clientTexts source i) := by
  simp only [clientStatus, JsonText.objectText, clientTexts, JsonText.memberTexts,
    JsonText.memberText, JsonText.quoted, List.append_assoc, List.cons_append]
  rfl

/-- Behind the first client, every client is written with a comma in front. -/
theorem foldl_addClientStatus (slots : List Slot) (status : Bytes) (first : Bool) :
    (slots.foldl (addClientStatus source) (status, first)).1 =
      let texts := (slots.filter fun i => (source.clients.wsClients i).connected).map fun i =>
        JsonText.objectText (clientTexts source i)
      status ++ if first then JsonTree.elementTexts texts else texts.flatMap (44 :: ·) := by
  induction slots generalizing status first with
  | nil => cases first <;> simp [JsonTree.elementTexts]
  | cons i slots induction =>
      rw [List.foldl_cons, addClientStatus]
      by_cases connected : (source.clients.wsClients i).connected = true
      · rw [if_pos connected, induction, clientStatus_eq]
        cases first <;> simp [connected, JsonTree.elementTexts, ascii]
      · rw [if_neg connected, induction]
        simp [connected]

/-- The members of `getWebSocketClientsStatus`. -/
def webSocketTexts (source : StatusSource) : List (Bytes × Bytes) :=
  [(ascii "connectedClients", decimal (source.clients.connectedClients % 256).toNat),
    (ascii "clients", JsonTree.arrayText ((listedClients source).map fun i =>
      JsonText.objectText (clientTexts source i)))]

theorem getWebSocketClientsStatus_eq (source : StatusSource) :
    getWebSocketClientsStatus source = JsonText.objectText (webSocketTexts source) := by
  rw [getWebSocketClientsStatus, foldl_addClientStatus]
  simp only [JsonText.objectText, webSocketTexts, listedClients, JsonText.memberTexts,
    JsonText.memberText, JsonText.quoted, JsonTree.arrayText, List.append_assoc, List.cons_append]
  rfl

/-! ## The answer -/

/-- The members in front of the WiFi. -/
def frontTexts (source : StatusSource) : List (Bytes × Bytes) :=
  [(ascii "device", JsonText.quoted deviceName),
    (ascii "version", JsonText.quoted source.firmwareVersion),
    (ascii "uptime", decimal (source.clock.millis / 1000).toNat),
    (ascii "freeHeap", decimal source.freeHeap.toNat),
    (ascii "logLevel", JsonText.quoted (ESPLogger.logLevelToString source.logLevel))]

/-- The member of the WiFi in front of the SSID. -/
def connectedText (source : StatusSource) : Bytes × Bytes :=
  (ascii "connected", truthText (source.manager.isConnected source.radio))

/-- The members of the WiFi behind the SSID. -/
def addressTexts (source : StatusSource) : List (Bytes × Bytes) :=
  [(ascii "ip", JsonText.quoted (source.manager.getIPAddress source.radio)),
    (ascii "rssi", GenericModbusDevice.decimalInt (source.manager.getRSSI source.radio))]

/-- The members of the WiFi. -/
def wifiTexts (source : StatusSource) (ssid : Bytes) : List (Bytes × Bytes) :=
  [connectedText source] ++ (ascii "ssid", JsonText.quoted ssid) :: addressTexts source

/-- The members of the NTP. -/
def ntpTexts (source : StatusSource) : List (Bytes × Bytes) :=
  [(ascii "synced", truthText (source.manager.isNTPSynced source.radio)),
    (ascii "time", JsonText.quoted (source.manager.getCurrentTime source.radio source.clock))]

/-- The members of the log buffer. -/
def logBufferTexts (source : StatusSource) : List (Bytes × Bytes) :=
  [(ascii "count", decimal source.logBufferCount), (ascii "size", decimal logBufferSize)]

/-- The members behind the WiFi. -/
def backTexts (source : StatusSource) : List (Bytes × Bytes) :=
  [(ascii "ntp", JsonText.objectText (ntpTexts source)),
    (ascii "websocket", getWebSocketClientsStatus source),
    (ascii "logBuffer", JsonText.objectText (logBufferTexts source))]

/-- The members of the answer. -/
def statusTexts (source : StatusSource) (ssid : Bytes) : List (Bytes × Bytes) :=
  frontTexts source ++ (ascii "wifi", JsonText.objectText (wifiTexts source ssid)) ::
    backTexts source

set_option maxRecDepth 8000 in
theorem handleAPIStatus_eq (lib : ArduinoJson) (source : StatusSource) :
    handleAPIStatus lib source = JsonText.objectText
      (statusTexts source (source.manager.getSSID lib source.config source.radio)) := by
  simp only [handleAPIStatus, JsonText.objectText, statusTexts, frontTexts, wifiTexts,
    connectedText, addressTexts, ntpTexts, logBufferTexts, backTexts, JsonText.memberTexts,
    JsonText.memberText, JsonText.quoted, List.flatten_cons, List.append_assoc, List.cons_append,
    List.nil_append]
  rfl

/-! ## Reading the answer -/

open JsonTree (Tree Shows Writes shows_member)

/-- What is read of the members in front of the WiFi. -/
def frontTrees (source : StatusSource) : List (Bytes × Tree) :=
  [(ascii "device", .text deviceName),
    (ascii "version", .text source.firmwareVersion),
    (ascii "uptime", .number (decimal (source.clock.millis / 1000).toNat)),
    (ascii "freeHeap", .number (decimal source.freeHeap.toNat)),
    (ascii "logLevel", .text (ESPLogger.logLevelToString source.logLevel))]

/-- What is read of the WiFi's member in front of the SSID. -/
def connectedTree (source : StatusSource) : Bytes × Tree :=
  (ascii "connected", .truth (source.manager.isConnected source.radio))

/-- What is read of the WiFi. -/
def wifiTrees (source : StatusSource) (ssid : Bytes) : List (Bytes × Tree) :=
  [connectedTree source, (ascii "ssid", .text ssid),
    (ascii "ip", .text (source.manager.getIPAddress source.radio)),
    (ascii "rssi", .number (GenericModbusDevice.decimalInt (source.manager.getRSSI source.radio)))]

/-- What is read of a client. -/
def clientTree (source : StatusSource) (i : Slot) : Tree :=
  let client := source.clients.wsClients i
  .object [(ascii "id", .number (decimal client.id.toNat)),
    (ascii "ip", .text (IPAddress.toString client.remoteIP)),
    (ascii "connected",
      .number (decimal ((source.clientMillis i - client.connectTime) / 1000).toNat)),
    (ascii "messages", .number (decimal client.messageCount.toNat))]

/-- What is read of the members behind the WiFi. -/
def backTrees (source : StatusSource) : List (Bytes × Tree) :=
  [(ascii "ntp", .object [(ascii "synced", .truth (source.manager.isNTPSynced source.radio)),
      (ascii "time", .text (source.manager.getCurrentTime source.radio source.clock))]),
    (ascii "websocket", .object
      [(ascii "connectedClients",
          .number (decimal (source.clients.connectedClients % 256).toNat)),
        (ascii "clients", .array ((listedClients source).map (clientTree source)))]),
    (ascii "logBuffer", .object [(ascii "count", .number (decimal source.logBufferCount)),
      (ascii "size", .number (decimal logBufferSize))])]

/-- What is read of the answer. -/
def statusTrees (source : StatusSource) (ssid : Bytes) : List (Bytes × Tree) :=
  frontTrees source ++ (ascii "wifi", .object (wifiTrees source ssid)) :: backTrees source

theorem Simple.writes (simple : Simple text) : Writes (JsonText.quoted text) (.text text) :=
  JsonTree.writes_plain simple.plain

theorem shows_front (version : JsonText.Plain source.firmwareVersion) :
    List.Forall₂ Shows (frontTexts source) (frontTrees source) :=
  .cons (shows_member (JsonTree.writes_plain (by decide))) <|
  .cons (shows_member (JsonTree.writes_plain version)) <|
  .cons (shows_member (writes_decimal _)) <|
  .cons (shows_member (writes_decimal _)) <|
  .cons (shows_member (simple_logLevelToString _).writes) .nil

theorem shows_connected (source : StatusSource) :
    Shows (connectedText source) (connectedTree source) :=
  shows_member (writes_truthText _)

theorem shows_wifi {ssid : Bytes} (plain : JsonText.Plain ssid) :
    List.Forall₂ Shows (wifiTexts source ssid) (wifiTrees source ssid) :=
  .cons (shows_connected source) <|
  .cons (shows_member (JsonTree.writes_plain plain)) <|
  .cons (shows_member (simple_getIPAddress _ _).writes) <|
  .cons (shows_member (writes_decimalInt _)) .nil

theorem writes_client (source : StatusSource) (i : Slot) :
    Writes (JsonText.objectText (clientTexts source i)) (clientTree source i) :=
  have shows : List.Forall₂ Shows (clientTexts source i) _ :=
    .cons (shows_member (writes_decimal _)) <|
    .cons (shows_member (simple_toString _).writes) <|
    .cons (shows_member (writes_decimal _)) <|
    .cons (shows_member (writes_decimal _)) .nil
  JsonTree.writes_object shows (List.cons_ne_nil _ _)

theorem shows_back (source : StatusSource) :
    List.Forall₂ Shows (backTexts source) (backTrees source) := by
  have clients : Writes (JsonTree.arrayText ((listedClients source).map fun i =>
      JsonText.objectText (clientTexts source i)))
      (.array ((listedClients source).map (clientTree source))) := by
    refine JsonTree.writes_array ?_
    rw [List.forall₂_map_left_iff, List.forall₂_map_right_iff, List.forall₂_same]
    exact fun i _ => writes_client source i
  have ntp : List.Forall₂ Shows (ntpTexts source) _ :=
    .cons (shows_member (writes_truthText _)) <|
    .cons (shows_member (simple_getCurrentTime _ _ _).writes) .nil
  have webSocket : List.Forall₂ Shows (webSocketTexts source) _ :=
    .cons (shows_member (writes_decimal _)) <| .cons (shows_member clients) .nil
  have logBuffer : List.Forall₂ Shows (logBufferTexts source) _ :=
    .cons (shows_member (writes_decimal _)) <| .cons (shows_member (writes_decimal _)) .nil
  rw [backTexts, getWebSocketClientsStatus_eq]
  exact .cons (shows_member (JsonTree.writes_object ntp (List.cons_ne_nil _ _))) <|
    .cons (shows_member (JsonTree.writes_object webSocket (List.cons_ne_nil _ _))) <|
    .cons (shows_member (JsonTree.writes_object logBuffer (List.cons_ne_nil _ _))) .nil

/-- With an SSID that needs no escapes, the answer is read as what it is made of. -/
theorem parse_handleAPIStatus (lib : ArduinoJson)
    (version : JsonText.Plain source.firmwareVersion)
    (plain : JsonText.Plain (source.manager.getSSID lib source.config source.radio)) :
    JsonTree.parse (handleAPIStatus lib source) = some (.object
      (statusTrees source (source.manager.getSSID lib source.config source.radio))) := by
  rw [handleAPIStatus_eq]
  refine JsonTree.parse_of_writes (JsonTree.writes_object ?_ (by simp [statusTexts]))
  have wifi := JsonTree.writes_object (@shows_wifi source _ plain) (List.cons_ne_nil _ _)
  exact List.rel_append (shows_front version) (.cons (shows_member wifi) (shows_back source))

/-! ## Which answers are valid -/

/-- The names of the members in every state, with those of the objects among them. -/
def statusKeys : List (Bytes × List Bytes) :=
  [(ascii "device", []), (ascii "version", []), (ascii "uptime", []), (ascii "freeHeap", []),
    (ascii "logLevel", []),
    (ascii "wifi", [ascii "connected", ascii "ssid", ascii "ip", ascii "rssi"]),
    (ascii "ntp", [ascii "synced", ascii "time"]),
    (ascii "websocket", [ascii "connectedClients", ascii "clients"]),
    (ascii "logBuffer", [ascii "count", ascii "size"])]

/-- The answer is a JSON text in UTF-8, an object with the members of every state, and tells the
SSID. -/
structure ValidStatus (answer ssid : Bytes) : Prop where
  encoded : Utf8.Valid answer
  object : ∃ members wifi, JsonTree.parse answer = some (.object members) ∧
    members.map (fun member => (member.1, member.2.keys)) = statusKeys ∧
    members.lookup (ascii "wifi") = some (.object wifi) ∧
    wifi.lookup (ascii "ssid") = some (.text ssid)

/-- A member whose name is in ASCII, in front of others. -/
theorem valid_cons {name : Bytes} {texts : List (Bytes × Bytes)} (first : Utf8.Valid text)
    (others : ∀ shown ∈ texts, Utf8.Valid shown.1 ∧ Utf8.Valid shown.2)
    (small : name.all (· < 128) = true := by decide) :
    ∀ shown ∈ (name, text) :: texts, Utf8.Valid shown.1 ∧ Utf8.Valid shown.2 :=
  List.forall_mem_cons.mpr ⟨⟨Utf8.valid_literal small, first⟩, others⟩

theorem valid_client (source : StatusSource) (i : Slot) :
    Utf8.Valid (JsonText.objectText (clientTexts source i)) :=
  JsonTree.valid_objectText <|
    valid_cons (simple_decimal _).valid <|
    valid_cons (simple_toString _).quoted <|
    valid_cons (simple_decimal _).valid <|
    valid_cons (simple_decimal _).valid (List.forall_mem_nil _)

theorem valid_front (version : Utf8.Valid source.firmwareVersion) :
    ∀ shown ∈ frontTexts source, Utf8.Valid shown.1 ∧ Utf8.Valid shown.2 :=
  have device : Simple deviceName := by decide
  valid_cons device.quoted <|
  valid_cons (JsonTree.valid_quoted_iff.mpr version) <|
  valid_cons (simple_decimal _).valid <|
  valid_cons (simple_decimal _).valid <|
  valid_cons (simple_logLevelToString _).quoted (List.forall_mem_nil _)

theorem valid_ntp (source : StatusSource) :
    Utf8.Valid (JsonText.objectText (ntpTexts source)) :=
  JsonTree.valid_objectText <|
    valid_cons (simple_truthText _).valid <|
    valid_cons (simple_getCurrentTime _ _ _).quoted (List.forall_mem_nil _)

theorem valid_getWebSocketClientsStatus (source : StatusSource) :
    Utf8.Valid (getWebSocketClientsStatus source) := by
  have clients : Utf8.Valid (JsonTree.arrayText ((listedClients source).map fun i =>
      JsonText.objectText (clientTexts source i))) :=
    JsonTree.valid_arrayText (List.forall_mem_map.mpr fun i _ => valid_client source i)
  rw [getWebSocketClientsStatus_eq]
  exact JsonTree.valid_objectText <|
    valid_cons (simple_decimal _).valid <| valid_cons clients (List.forall_mem_nil _)

theorem valid_logBuffer (source : StatusSource) :
    Utf8.Valid (JsonText.objectText (logBufferTexts source)) :=
  JsonTree.valid_objectText <|
    valid_cons (simple_decimal _).valid <|
    valid_cons (simple_decimal _).valid (List.forall_mem_nil _)

theorem valid_back (source : StatusSource) :
    ∀ shown ∈ backTexts source, Utf8.Valid shown.1 ∧ Utf8.Valid shown.2 :=
  valid_cons (valid_ntp source) <|
  valid_cons (valid_getWebSocketClientsStatus source) <|
  valid_cons (valid_logBuffer source) (List.forall_mem_nil _)

theorem valid_handleAPIStatus_iff (lib : ArduinoJson)
    (version : Utf8.Valid source.firmwareVersion) :
    Utf8.Valid (handleAPIStatus lib source) ↔
      Utf8.Valid (source.manager.getSSID lib source.config source.radio) := by
  have connected : ∀ shown ∈ [connectedText source], Utf8.Valid shown.1 ∧ Utf8.Valid shown.2 :=
    valid_cons (simple_truthText _).valid (List.forall_mem_nil _)
  have address : ∀ shown ∈ addressTexts source, Utf8.Valid shown.1 ∧ Utf8.Valid shown.2 :=
    valid_cons (simple_getIPAddress _ _).quoted <|
    valid_cons (simple_decimalInt _).valid (List.forall_mem_nil _)
  rw [handleAPIStatus_eq, statusTexts, JsonTree.valid_objectText_iff (valid_front version)
    (valid_back source) (Utf8.valid_literal (by decide)), wifiTexts,
    JsonTree.valid_objectText_iff connected address (Utf8.valid_literal (by decide)),
    JsonTree.valid_quoted_iff]

/-- What is told as the SSID is read from where the SSID stands, so that it needs no escapes. -/
theorem plain_of_validStatus (lib : ArduinoJson)
    (version : JsonText.Plain source.firmwareVersion)
    (valid : ValidStatus (handleAPIStatus lib source)
      (source.manager.getSSID lib source.config source.radio)) :
    JsonText.Plain (source.manager.getSSID lib source.config source.radio) := by
  obtain ⟨members, wifi, parsed, -, wifiMember, ssidMember⟩ := valid.object
  rw [handleAPIStatus_eq] at parsed
  generalize source.manager.getSSID lib source.config source.radio = ssid at *
  obtain ⟨rest, scanned⟩ := JsonTree.scan_of_parse parsed
  rw [← List.append_nil (JsonText.objectText _)] at scanned
  obtain ⟨fuel, value, others, behind, later, enough, wifiRead, same⟩ :=
    JsonTree.exists_member_of_scan (shows_front version) (by decide) (by simp [statusTexts]) scanned
  obtain rfl := Tree.object.inj same
  have found : (frontTrees source ++ (ascii "wifi", value) :: others).lookup (ascii "wifi") =
      some value := rfl
  obtain rfl := Option.some.inj (found.symm.trans wifiMember)
  have before : List.Forall₂ Shows [connectedText source] [connectedTree source] :=
    .cons (shows_connected source) .nil
  obtain ⟨fuel, value, others, behind, later, enough, ssidRead, same⟩ :=
    JsonTree.exists_member_of_scan before (by decide) enough wifiRead
  obtain rfl := Tree.object.inj same
  have found : ([connectedTree source] ++ (ascii "ssid", value) :: others).lookup (ascii "ssid") =
      some value := rfl
  obtain rfl := Option.some.inj (found.symm.trans ssidMember)
  obtain ⟨decoded, same, spelled⟩ := JsonTree.scan_quoted enough ssidRead
  obtain rfl := Tree.text.inj same
  exact JsonTree.plain_of_scanQuoted spelled

/-- The status API returns valid JSON that tells the SSID, if and only if the SSID is valid UTF-8
without quotes, backslashes and control characters. -/
theorem handleAPIStatus_valid_iff (lib : ArduinoJson) (source : StatusSource)
    (plain : JsonText.Plain source.firmwareVersion)
    (encoded : Utf8.Valid source.firmwareVersion) :
    ValidStatus (handleAPIStatus lib source)
        (source.manager.getSSID lib source.config source.radio) ↔
      Utf8.Valid (source.manager.getSSID lib source.config source.radio) ∧
        JsonText.Plain (source.manager.getSSID lib source.config source.radio) := by
  constructor
  · exact fun valid => ⟨(valid_handleAPIStatus_iff lib encoded).mp valid.encoded,
      plain_of_validStatus lib plain valid⟩
  · rintro ⟨valid, simple⟩
    refine ⟨(valid_handleAPIStatus_iff lib encoded).mpr valid, _, _,
      parse_handleAPIStatus lib plain simple, rfl, rfl, rfl⟩

/-- A device without a network to join, with an access point of this name. -/
def setup (apName : Bytes) : StatusSource :=
  let config : Config :=
    ⟨ascii "/config.json", .object [(ascii "ap_ssid", .string apName)], true⟩
  { firmwareVersion := ascii "dev"
    manager := (WiFiManager.begin (flatJson []) config .create
      ⟨false, 0, false, false, false, true, 0⟩).2.1
    config := config
    radio := ⟨false, [], 0, 17082560, 0⟩
    clock := ⟨61000, 61, (0, 1, 1)⟩
    freeHeap := 180000
    logLevel := .info
    clients := .initial
    clientMillis _ := 61000
    logBufferCount := 20 }

/-- A name with a letter of two bytes. -/
theorem handleAPIStatus_valid_setup :
    let source := setup (ascii "modbusbridge " ++ [0xC3, 0xA9])
    ValidStatus (handleAPIStatus (flatJson []) source)
      (source.manager.getSSID (flatJson []) source.config source.radio) := by
  intro source
  have name : source.manager.getSSID (flatJson []) source.config source.radio =
      ascii "modbusbridge " ++ [0xC3, 0xA9] := by decide +kernel
  refine (handleAPIStatus_valid_iff (flatJson []) source (by decide)
    (Utf8.valid_literal (by decide))).mpr ?_
  rw [name]
  exact ⟨Utf8.valid_iff_exists.mpr ⟨"modbusbridge é".toList, by decide +kernel⟩, by decide⟩

/-- The name of the access point has a quote in it. -/
theorem handleAPIStatus_quote :
    let source := setup (ascii "Bridge \"2\"")
    ¬ ValidStatus (handleAPIStatus (flatJson []) source)
      (source.manager.getSSID (flatJson []) source.config source.radio) := by
  have broken : (JsonTree.parse (handleAPIStatus (flatJson [])
      (setup (ascii "Bridge \"2\"")))).isNone = true := by
    decide +kernel
  rintro source ⟨-, members, wifi, parsed, -⟩
  exact Bool.false_ne_true ((congrArg Option.isNone parsed).symm.trans broken)

end WebUI

end ModbusBridge
