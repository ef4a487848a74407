import Mathlib.Data.List.Induction
import ModbusBridge.Library.Broker
import ModbusBridge.Library.StepSystem
import ModbusBridge.MQTT.Connection
import ModbusBridge.Polling.Calls

/-!
# What the broker knows of the bridge

Two tasks hand packets to the broker, which may lose them and may lose the session. The bridge says
that it is online, but never that it goes, and its will is on a topic of its own.
-/

namespace ModbusBridge

/-- What the client tells about the bridge, besides its configuration. -/
structure BridgeInfo where
  ipAddress : Bytes
  hostname : Bytes
  /-- `FIRMWARE_VERSION`, `BUILD_MODE`, `GIT_HASH`, `GIT_BRANCH`, `BUILD_DATE`, `BUILD_TIME` and
  `DEVICE_NAME`. -/
  firmwareVersion : Bytes
  buildMode : Bytes
  gitHash : Bytes
  gitBranch : Bytes
  buildDate : Bytes
  buildTime : Bytes
  deviceName : Bytes
  freeHeap : UInt32
  /-- `wifiManager.isAPMode()` and `wifiManager.isConnected()`. -/
  apMode : Bool
  wifiConnected : Bool
  ssid : Bytes
  rssi : Int

/-- A packet on the way to the broker. -/
inductive Packet
  /-- A request to connect, with a will, and whether the client has seen it accepted. -/
  | connect (will : Option Message) (acknowledged : Bool)
  | publish (message : Message)
  | disconnect

namespace MQTTClient

/-! ## Packets -/

section

variable (lib : ArduinoJson) (config : Config) (identity : Identity) (info : BridgeInfo)

/-- The document of `publishStatus(status)`. -/
def statusDocument (status : Bytes) (moment : Moment) : Json :=
  .object [(ascii "status", .string status), (ascii "timestamp", .integer moment.now.toNat),
    (ascii "uptime", .integer (moment.later / 1000).toNat),
    (ascii "device_id", .string (getDeviceId lib config identity))]

/-- `publishStatus(status)`. -/
def publishConnection (moment : Moment) (status : Bytes) : Delivery :=
  publishJson lib config moment (ascii "status") (ascii "connection")
    (lib.serializeJson (statusDocument lib config identity status moment)) true

/-- `publishRSSI`. -/
def publishRSSI (moment : Moment) : Delivery :=
  if !info.wifiConnected then ⟨none, false⟩
  else
    publishJson lib config moment (ascii "diagnostics") (ascii "rssi")
      (lib.serializeJson (.object [(ascii "rssi", .integer info.rssi),
        (ascii "unit", .string (ascii "dBm")), (ascii "timestamp", .integer moment.now.toNat),
        (ascii "uptime", .integer (moment.later / 1000).toNat),
        (ascii "device_id", .string (getDeviceId lib config identity))])) true

/-- `publishUptime`. -/
def publishUptime (moment : Moment) : Delivery :=
  publishJson lib config moment (ascii "status") (ascii "uptime")
    (lib.serializeJson (.object [(ascii "uptime", .integer (moment.now / 1000).toNat),
      (ascii "unit", .string (ascii "seconds")),
      (ascii "timestamp", .integer moment.later.toNat),
      (ascii "device_id", .string (getDeviceId lib config identity))])) true

/-- The document about the system. -/
def systemDocument (moment : Moment) : Json :=
  .object <|
    [(ascii "device_id", .string (getDeviceId lib config identity)),
      (ascii "mac_address", .string identity.macAddress),
      (ascii "ip_address", .string info.ipAddress), (ascii "hostname", .string info.hostname),
      (ascii "firmware_version", .string info.firmwareVersion),
      (ascii "build_mode", .string info.buildMode), (ascii "git_hash", .string info.gitHash),
      (ascii "git_branch", .string info.gitBranch), (ascii "build_date", .string info.buildDate),
      (ascii "build_time", .string info.buildTime), (ascii "device_name", .string info.deviceName),
      (ascii "free_heap", .integer info.freeHeap.toNat),
      (ascii "timestamp", .integer moment.now.toNat),
      (ascii "uptime", .integer (moment.later / 1000).toNat)] ++
    if !info.apMode then
      [(ascii "wifi_ssid", .string info.ssid), (ascii "wifi_rssi", .integer info.rssi)]
    else []

/-- The document about the configuration. -/
def configDocument (moment : Moment) : Json :=
  .object
    [(ascii "device_model", .string (config.getString lib (ascii "device_model") [])),
      (ascii "device_type", .string (getDeviceType lib config)),
      (ascii "poll_interval", .integer (config.getInt lib (ascii "poll_interval_sec") 0)),
      (ascii "read_storage", .boolean (config.getBool (ascii "read_storage_regs") false)),
      (ascii "mqtt_json_format", .boolean (config.getBool (ascii "mqtt_json_format") true)),
      (ascii "timestamp", .integer moment.now.toNat)]

variable (moments : Nat → Moment)

/-- `publishConnectStatus`. -/
def publishConnectStatus : List Delivery :=
  [publishConnection lib config identity (moments 0) (ascii "online"),
    publishJson lib config (moments 1) (ascii "status") (ascii "system_info")
      (lib.serializeJson (systemDocument lib config identity info (moments 1))) true,
    publishJson lib config (moments 2) (ascii "config") (ascii "config_info")
      (lib.serializeJson (configDocument lib config (moments 2))) true,
    publishRSSI lib config identity info (moments 3), publishUptime lib config identity (moments 4)]

/-- What `handleConnection` publishes once in a while. -/
def publishOnline : List Delivery :=
  [publishConnection lib config identity (moments 0) (ascii "online"),
    publishRSSI lib config identity info (moments 1), publishUptime lib config identity (moments 2)]

/-- The packets of the messages that are handed over. -/
def published (deliveries : List Delivery) : List Packet :=
  (deliveries.filterMap Delivery.message).map .publish

/-- The will of the second attempt of `connect`. -/
def will : Message := ⟨buildTopic lib config identity (ascii "status"), ascii "offline", true⟩

/-- The packets of `connect`. -/
def connectPackets (client : MQTTClient) (link : Link) : List Packet :=
  if !client.initialized then []
  else if !link.stillConnected then []
  else if link.stillAPMode then []
  else if !link.reachable then []
  else
    let told := published (publishConnectStatus lib config identity info moments)
    .connect none link.simple ::
      if link.simple then told
      else
        .connect (some (will lib config identity)) link.withWill ::
          if link.withWill then told else []

/-- The packets of `handleConnection`. -/
def packets (client : MQTTClient) (link : Link) : List Packet :=
  (client.handleConnection link).2.flatMap fun call =>
    match call with
    | .disconnect => [.disconnect]
    | .reconnect none => []
    | .reconnect (some _) => connectPackets lib config identity info moments client link
    | .publishOnline => published (publishOnline lib config identity info moments)
    | .loop => []

end

end MQTTClient

/-- The packets of `poll`. -/
def Poller.packets (lib : ArduinoJson) (here : Circumstances) (poller : Poller) : List Packet :=
  MQTTClient.published ((poller.poll lib here).2.map Prod.snd)

/-! ## Topics -/

section

variable {lib : ArduinoJson} {config : Config} {identity : Identity}

/-- The topic of the connection status. -/
def connectionTopic (lib : ArduinoJson) (config : Config) : Bytes :=
  MQTTClient.buildGenericTopic lib config (ascii "status") (ascii "connection")

/-- The topic of the availability of the device. -/
def availabilityTopic (lib : ArduinoJson) (config : Config) : Bytes :=
  MQTTClient.buildGenericTopic lib config (ascii "status") (ascii "availability")

theorem buildGenericTopic_inj {dataType metric dataType' metric' : Bytes} :
    MQTTClient.buildGenericTopic lib config dataType metric =
        MQTTClient.buildGenericTopic lib config dataType' metric' ↔
      dataType ++ ascii "/" ++ metric = dataType' ++ ascii "/" ++ metric' := by
  simp only [MQTTClient.buildGenericTopic, List.append_assoc, List.append_cancel_left_eq]

/-- Topics of other kinds are none of the two. -/
theorem topic_ne {dataType metric : Bytes}
    (apart : (dataType ++ ascii "/" ++ metric).head? ≠ (ascii "status").head?) :
    MQTTClient.buildGenericTopic lib config dataType metric ≠ connectionTopic lib config ∧
      MQTTClient.buildGenericTopic lib config dataType metric ≠ availabilityTopic lib config := by
  simp only [connectionTopic, availabilityTopic, ne_eq, buildGenericTopic_inj]
  constructor <;> exact fun same => apart (by rw [same]; rfl)

theorem connectionTopic_ne : connectionTopic lib config ≠ availabilityTopic lib config := by
  rw [connectionTopic, availabilityTopic, ne_eq, buildGenericTopic_inj]
  decide

/-- The will is on a topic of its own, whatever the prefix and the identifier are. -/
theorem will_topic_ne :
    (MQTTClient.will lib config identity).topic ≠ connectionTopic lib config ∧
      (MQTTClient.will lib config identity).topic ≠ availabilityTopic lib config := by
  have last (front : Bytes) {metric : Bytes} {byte : UInt8} (ends : metric.getLast? = some byte) :
      (front ++ metric).getLast? = some byte := by
    rw [List.getLast?_append, ends, Option.some_or]
  have own : (MQTTClient.will lib config identity).topic.getLast? = some 115 := last _ rfl
  have connection : (connectionTopic lib config).getLast? = some 110 := last _ rfl
  have availability : (availabilityTopic lib config).getLast? = some 121 := last _ rfl
  constructor <;> intro same
  · rw [same, connection] at own
    contradiction
  · rw [same, availability] at own
    contradiction

/-! ## What the messages say -/

/-- A message says nothing on the two topics but that the bridge is online and whether the device
is available. -/
structure Tells (lib : ArduinoJson) (config : Config) (identity : Identity) (message : Message) :
    Prop where
  connection : message.topic = connectionTopic lib config →
    ∃ moment, message.payload =
      lib.serializeJson (MQTTClient.statusDocument lib config identity (ascii "online") moment)
  availability : message.topic = availabilityTopic lib config →
    message.payload = ascii "online" ∨ message.payload = ascii "offline"

/-- The messages of some deliveries tell nothing else. -/
def AllTell (lib : ArduinoJson) (config : Config) (identity : Identity)
    (deliveries : List Delivery) : Prop :=
  ∀ delivery ∈ deliveries, ∀ message ∈ delivery.message, Tells lib config identity message

theorem tells_publishGeneric {moment : Moment} {dataType metric payload : Bytes} {retain : Bool}
    (tells : Tells lib config identity
      ⟨MQTTClient.buildGenericTopic lib config dataType metric, payload, retain⟩)
    {message : Message}
    (sent : message ∈ (MQTTClient.publishGeneric lib config moment dataType metric payload
      retain).message) : Tells lib config identity message := by
  rw [MQTTClient.publishGeneric] at sent
  split at sent
  · contradiction
  · obtain rfl := Option.some.inj sent
    exact ⟨tells.connection, tells.availability⟩

/-- A message on another topic. -/
theorem tells_of_ne {dataType metric payload : Bytes} {retain : Bool}
    (apart : MQTTClient.buildGenericTopic lib config dataType metric ≠ connectionTopic lib config ∧
      MQTTClient.buildGenericTopic lib config dataType metric ≠ availabilityTopic lib config) :
    Tells lib config identity
      ⟨MQTTClient.buildGenericTopic lib config dataType metric, payload, retain⟩ :=
  ⟨fun same => absurd same apart.1, fun same => absurd same apart.2⟩

/-- The other metrics of the status. -/
theorem status_ne {metric : Bytes} (apart : metric ≠ ascii "connection" ∧
    metric ≠ ascii "availability") :
    MQTTClient.buildGenericTopic lib config (ascii "status") metric ≠ connectionTopic lib config ∧
      MQTTClient.buildGenericTopic lib config (ascii "status") metric ≠
        availabilityTopic lib config := by
  simpa only [connectionTopic, availabilityTopic, ne_eq, buildGenericTopic_inj,
    List.append_cancel_left_eq] using apart

theorem tells_publishConnection {moment : Moment} {message : Message}
    (sent : message ∈
      (MQTTClient.publishConnection lib config identity moment (ascii "online")).message) :
    Tells lib config identity message :=
  tells_publishGeneric ⟨fun _ => ⟨moment, rfl⟩, fun same => absurd same connectionTopic_ne⟩ sent

theorem tells_publishRSSI {info : BridgeInfo} {moment : Moment} {message : Message}
    (sent : message ∈ (MQTTClient.publishRSSI lib config identity info moment).message) :
    Tells lib config identity message := by
  rw [MQTTClient.publishRSSI] at sent
  split at sent
  · contradiction
  · exact tells_publishGeneric (tells_of_ne (topic_ne (by simp [ascii]))) sent

theorem tells_publishUptime {moment : Moment} {message : Message}
    (sent : message ∈ (MQTTClient.publishUptime lib config identity moment).message) :
    Tells lib config identity message :=
  tells_publishGeneric (tells_of_ne (status_ne (by decide))) sent

/-- A packet that tells nothing else and leaves no other will. -/
def Packet.Fine (lib : ArduinoJson) (config : Config) (identity : Identity) : Packet → Prop
  | connect left _ => ∀ message ∈ left, message = MQTTClient.will lib config identity
  | publish message => Tells lib config identity message
  | disconnect => True

theorem AllTell.published {deliveries : List Delivery}
    (tell : AllTell lib config identity deliveries) :
    ∀ packet ∈ MQTTClient.published deliveries, packet.Fine lib config identity := by
  intro packet listed
  obtain ⟨message, sent, rfl⟩ := List.mem_map.mp listed
  obtain ⟨delivery, member, here⟩ := List.mem_filterMap.mp sent
  exact tell delivery member message here

variable (info : BridgeInfo) (moments : Nat → Moment)

theorem publishConnectStatus_tells :
    AllTell lib config identity
      (MQTTClient.publishConnectStatus lib config identity info moments) := by
  simp only [AllTell, MQTTClient.publishConnectStatus, List.forall_mem_cons]
  exact ⟨fun _ => tells_publishConnection,
    fun _ => tells_publishGeneric (tells_of_ne (status_ne (by decide))),
    fun _ => tells_publishGeneric (tells_of_ne (topic_ne (by simp [ascii]))),
    fun _ => tells_publishRSSI, fun _ => tells_publishUptime, by simp⟩

theorem publishOnline_tells :
    AllTell lib config identity (MQTTClient.publishOnline lib config identity info moments) := by
  simp only [AllTell, MQTTClient.publishOnline, List.forall_mem_cons]
  exact ⟨fun _ => tells_publishConnection, fun _ => tells_publishRSSI,
    fun _ => tells_publishUptime, by simp⟩

/-! ## What a poll says -/

theorem tells_ordinary {publication : Publication} (ordinary : publication.Ordinary)
    {moment : Moment} {message : Message}
    (sent : message ∈ (publication.deliver lib config identity moment).message) :
    Tells lib config identity message := by
  cases ordinary with
  | isConnected => cases sent
  | telemetry point =>
      exact tells_publishGeneric (tells_of_ne (topic_ne (by simp [ascii]))) sent
  | pollStatus document =>
      exact tells_publishGeneric (tells_of_ne (status_ne (by decide))) sent
  | hardwareStatus metric document =>
      exact tells_publishGeneric (tells_of_ne (topic_ne (by simp [ascii]))) sent

theorem tells_availability {online : Bool} {moment : Moment} {message : Message}
    (sent : message ∈
      ((Publication.availability online).deliver lib config identity moment).message) :
    Tells lib config identity message := by
  refine tells_publishGeneric ⟨fun same => absurd same.symm connectionTopic_ne, fun _ => ?_⟩ sent
  cases online <;> simp

theorem poll_tells {here : Circumstances} (poller : Poller) :
    AllTell lib here.config here.identity ((poller.poll lib here).2.map Prod.snd) := by
  intro delivery listed message sent
  obtain ⟨call, made, rfl⟩ := List.mem_map.mp listed
  obtain ⟨kind, moment, ends⟩ := (Poller.poll_calls poller).each call made
  rw [ends] at sent
  rcases kind with ordinary | ⟨online, tried⟩
  · exact tells_ordinary ordinary sent
  · rw [tried] at sent
    exact tells_availability sent

/-! ## Packets that are fine -/

theorem connectPackets_fine (client : MQTTClient) (link : Link) :
    ∀ packet ∈ MQTTClient.connectPackets lib config identity info moments client link,
      packet.Fine lib config identity := by
  have told := (@publishConnectStatus_tells lib config identity info moments).published
  rw [MQTTClient.connectPackets]
  split_ifs
  · simp
  · simp
  · simp
  · simp
  · exact List.forall_mem_cons.mpr ⟨by simp [Packet.Fine], told⟩
  · exact List.forall_mem_cons.mpr ⟨by simp [Packet.Fine],
      List.forall_mem_cons.mpr ⟨by simp [Packet.Fine], told⟩⟩
  · simp [Packet.Fine]

theorem packets_fine (client : MQTTClient) (link : Link) :
    ∀ packet ∈ client.packets lib config identity info moments link,
      packet.Fine lib config identity := by
  intro packet listed
  obtain ⟨call, -, sent⟩ := List.mem_flatMap.mp listed
  cases call with
  | disconnect =>
      obtain rfl := List.mem_singleton.mp sent
      trivial
  | reconnect connects =>
      cases connects with
      | none => simp at sent
      | some result => exact connectPackets_fine info moments client link packet sent
  | publishOnline => exact (publishOnline_tells info moments).published packet sent
  | loop => simp at sent

end

/-! ## Runs -/

/-- The bridge and its broker. -/
structure Bridge where
  client : MQTTClient
  poller : Poller
  /-- The packets that each task has still to send. -/
  mqttQueue : List Packet
  pollQueue : List Packet
  broker : Broker Bytes Bytes
  /-- The messages of the bridge that the broker was told to keep, in their order. -/
  kept : List Message

/-- What can happen to the bridge and its broker. -/
inductive Happening
  /-- `mqttTask` calls `handleConnection`. -/
  | handleConnection (info : BridgeInfo) (moments : Nat → Moment) (link : Link)
  /-- `pollerTask` calls `poll`. -/
  | poll (here : Circumstances)
  /-- The next packet of a task goes out, and may arrive. -/
  | sendMqtt (arrives : Bool)
  | sendPoll (arrives : Bool)
  /-- The broker gives up the session. -/
  | lose
  /-- The bridge starts again. -/
  | restart (modbusInitialized starts : Bool)

/-- What is kept of a message: an empty payload means nothing. -/
def Message.word (message : Message) : Option Bytes :=
  if message.payload.isEmpty then none else some message.payload

namespace Bridge

/-- A packet goes out. A request that the client has seen accepted has arrived, and a message needs
a session. -/
def send (bridge : Bridge) (arrives : Bool) : Packet → Bridge
  | .connect left acknowledged =>
      if acknowledged || arrives then
        let left := left.map fun message => (message.topic, message.payload)
        { bridge with broker := bridge.broker.accept left }
      else bridge
  | .publish message =>
      if arrives && bridge.broker.session.isSome && message.retain then
        { bridge with
          broker := bridge.broker.keep message.topic message.word
          kept := bridge.kept ++ [message] }
      else bridge
  | .disconnect => if arrives then { bridge with broker := bridge.broker.leave } else bridge

/-- The effect of what happens. A task sends all its packets before it goes on. -/
def step (lib : ArduinoJson) (config : Config) (identity : Identity) (bridge : Bridge) :
    Happening → Option Bridge
  | .handleConnection info moments link =>
      if bridge.mqttQueue.isEmpty then
        some
          { bridge with
            client := (bridge.client.handleConnection link).1
            mqttQueue := bridge.client.packets lib config identity info moments link }
      else none
  | .poll here =>
      let here := { here with config, identity }
      if bridge.pollQueue.isEmpty then
        some
          { bridge with
            poller := (bridge.poller.poll lib here).1
            pollQueue := bridge.poller.packets lib here }
      else none
  | .sendMqtt arrives =>
      match bridge.mqttQueue with
      | [] => none
      | packet :: queue => some (send { bridge with mqttQueue := queue } arrives packet)
  | .sendPoll arrives =>
      match bridge.pollQueue with
      | [] => none
      | packet :: queue => some (send { bridge with pollQueue := queue } arrives packet)
  | .lose => some { bridge with broker := bridge.broker.lose }
  | .restart modbusInitialized starts =>
      some
        { bridge with
          client := (MQTTClient.create.begin lib config).2
          poller := (Poller.create.begin lib modbusInitialized config starts).2
          mqttQueue := []
          pollQueue := [] }

end Bridge

/-- A bridge that starts beside a broker that has not heard of it. -/
def bridgeRuns (lib : ArduinoJson) (config : Config) (identity : Identity) :
    StepSystem Bridge Happening where
  start := ⟨MQTTClient.create, Poller.create, [], [], .unaware, []⟩
  next := Bridge.step lib config identity

/-- What the messages say last on a topic. -/
def lastWord (topic : Bytes) (messages : List Message) : Option Bytes :=
  messages.foldl (fun word message => if message.topic = topic then message.word else word) none

theorem lastWord_concat (topic : Bytes) (messages : List Message) (message : Message) :
    lastWord topic (messages ++ [message]) =
      if message.topic = topic then message.word else lastWord topic messages := by
  rw [lastWord, List.foldl_append]
  rfl

section

variable {lib : ArduinoJson} {config : Config} {identity : Identity} {topic : Bytes}
  {bridge after : Bridge} {happening : Happening}

/-- All packets under way are fine, and the will of the session too. -/
structure Bridge.Honest (lib : ArduinoJson) (config : Config) (identity : Identity)
    (bridge : Bridge) : Prop where
  mqtt : ∀ packet ∈ bridge.mqttQueue, packet.Fine lib config identity
  poll : ∀ packet ∈ bridge.pollQueue, packet.Fine lib config identity
  left : ∀ left, bridge.broker.session = some (some left) →
    left = ((MQTTClient.will lib config identity).topic, ascii "offline")
  kept : ∀ message ∈ bridge.kept, Tells lib config identity message
  last : ∀ topic ≠ (MQTTClient.will lib config identity).topic,
    bridge.broker.retained topic = lastWord topic bridge.kept

theorem Bridge.Honest.silent (honest : bridge.Honest lib config identity)
    (apart : topic ≠ (MQTTClient.will lib config identity).topic) : bridge.broker.Silent topic :=
  fun left opened => by rw [honest.left left opened]; exact apart.symm

theorem Bridge.Honest.send (honest : bridge.Honest lib config identity) (arrives : Bool)
    {packet : Packet} (fine : packet.Fine lib config identity) :
    (bridge.send arrives packet).Honest lib config identity ∧
      bridge.kept <+: (bridge.send arrives packet).kept := by
  cases packet with
  | connect left acknowledged =>
      rw [Bridge.send]
      split
      · refine ⟨⟨honest.mqtt, honest.poll, fun other opened => ?_, honest.kept,
          fun topic apart => ?_⟩, List.prefix_rfl⟩
        · obtain ⟨message, here, rfl⟩ := Option.map_eq_some_iff.mp (Option.some.inj opened)
          rw [fine message here]
          rfl
        · exact ((honest.silent apart).retained_accept _).trans (honest.last topic apart)
      · exact ⟨honest, List.prefix_rfl⟩
  | publish message =>
      rw [Bridge.send]
      split
      · refine ⟨⟨honest.mqtt, honest.poll, honest.left, fun other listed => ?_,
          fun topic apart => ?_⟩, List.prefix_append _ _⟩
        · rcases List.mem_append.mp listed with before | now
          · exact honest.kept other before
          · exact List.mem_singleton.mp now ▸ fine
        · rw [lastWord_concat]
          split_ifs with same
          · exact same ▸ Broker.retained_keep_self _
          · exact (Broker.retained_keep_of_ne (Ne.symm same) _).trans (honest.last topic apart)
      · exact ⟨honest, List.prefix_rfl⟩
  | disconnect =>
      rw [Bridge.send]
      split
      · exact ⟨⟨honest.mqtt, honest.poll, fun _ opened => by simp [Broker.leave] at opened,
          honest.kept, honest.last⟩, List.prefix_rfl⟩
      · exact ⟨honest, List.prefix_rfl⟩

/-- Whatever happens keeps the bridge honest, and the messages kept before. -/
theorem Bridge.Honest.step (honest : bridge.Honest lib config identity)
    (moves : bridge.step lib config identity happening = some after) :
    after.Honest lib config identity ∧ bridge.kept <+: after.kept := by
  cases happening with
  | handleConnection info moments link =>
      rw [Bridge.step] at moves
      split at moves
      · obtain rfl := Option.some.inj moves
        exact ⟨⟨packets_fine info moments bridge.client link, honest.poll, honest.left,
          honest.kept, honest.last⟩, List.prefix_rfl⟩
      · contradiction
  | poll here =>
      rw [Bridge.step] at moves
      split at moves
      · obtain rfl := Option.some.inj moves
        have tell := @poll_tells lib { here with config, identity } bridge.poller
        exact ⟨⟨honest.mqtt, tell.published, honest.left, honest.kept, honest.last⟩,
          List.prefix_rfl⟩
      · contradiction
  | sendMqtt arrives =>
      rw [Bridge.step] at moves
      split at moves
      · contradiction
      next packet queue queued =>
          obtain rfl := Option.some.inj moves
          have fine := honest.mqtt
          rw [queued, List.forall_mem_cons] at fine
          have rest : Bridge.Honest lib config identity { bridge with mqttQueue := queue } :=
            ⟨fine.2, honest.poll, honest.left, honest.kept, honest.last⟩
          exact rest.send arrives fine.1
  | sendPoll arrives =>
      rw [Bridge.step] at moves
      split at moves
      · contradiction
      next packet queue queued =>
          obtain rfl := Option.some.inj moves
          have fine := honest.poll
          rw [queued, List.forall_mem_cons] at fine
          have rest : Bridge.Honest lib config identity { bridge with pollQueue := queue } :=
            ⟨honest.mqtt, fine.2, honest.left, honest.kept, honest.last⟩
          exact rest.send arrives fine.1
  | lose =>
      obtain rfl := Option.some.inj moves
      refine ⟨⟨honest.mqtt, honest.poll, fun _ opened => ?_, honest.kept, fun topic apart => ?_⟩,
        List.prefix_rfl⟩
      · rw [show ({ bridge with broker := bridge.broker.lose } : Bridge).broker.session = none from
          Broker.session_lose] at opened
        contradiction
      · exact (honest.silent apart).retained_lose.trans (honest.last topic apart)
  | restart modbusInitialized starts =>
      obtain rfl := Option.some.inj moves
      exact ⟨⟨by simp, by simp, honest.left, honest.kept, honest.last⟩, List.prefix_rfl⟩

theorem bridgeRuns_honest {state : Bridge}
    (reach : (bridgeRuns lib config identity).Reaches (fun _ _ => True) state) :
    state.Honest lib config identity := by
  refine reach.invariant ?_ fun _ _ _ honest _ moves => (Bridge.Honest.step honest moves).1
  refine ⟨?_, ?_, ?_, ?_, fun _ _ => rfl⟩ <;> simp [bridgeRuns, Broker.unaware]

/-- The last word on a topic is that of one of the messages. -/
theorem lastWord_of_all (P : Bytes → Prop) {messages : List Message}
    (all : ∀ message ∈ messages, message.topic = topic → P message.payload) {word : Bytes}
    (last : lastWord topic messages = some word) : P word := by
  induction messages using List.reverseRecOn with
  | nil => simp [lastWord] at last
  | append_singleton messages message induction =>
      rw [lastWord_concat] at last
      split_ifs at last with same
      · rw [Message.word] at last
        split at last
        · contradiction
        · obtain rfl := Option.some.inj last
          exact all message (by simp) same
      · exact induction (fun other listed => all other (by simp [listed])) last

/-- There is a last word once there was a message with a payload. -/
theorem lastWord_isSome {messages : List Message}
    (words : ∀ message ∈ messages, message.topic = topic → message.payload ≠ [])
    (some_message : ∃ message ∈ messages, message.topic = topic) :
    (lastWord topic messages).isSome = true := by
  induction messages using List.reverseRecOn with
  | nil => simp at some_message
  | append_singleton messages message induction =>
      rw [lastWord_concat]
      split_ifs with same
      · simp [Message.word, words message (by simp) same]
      · obtain ⟨other, listed, there⟩ := some_message
        refine induction (fun other listed => words other (by simp [listed])) ⟨other, ?_, there⟩
        rcases List.mem_append.mp listed with before | now
        · exact before
        · exact absurd (List.mem_singleton.mp now ▸ there) same

/-- Whatever the tasks, the network and the broker do, and however often the bridge goes down: from
the first message about the connection that the broker keeps, it says that the bridge is online, and
the availability is what the last poll said of it. A lost session changes neither, since its will
is on a topic that neither has. -/
theorem bridge_stays_online (texts : ∀ document, lib.serializeJson document ≠ []) {state : Bridge}
    (reach : (bridgeRuns lib config identity).Reaches (fun _ _ => True) state) :
    let connection := connectionTopic lib config
    let availability := availabilityTopic lib config
    ((∃ message ∈ state.kept, message.topic = connection) →
      ∃ moment, state.broker.retained connection = some (lib.serializeJson
        (MQTTClient.statusDocument lib config identity (ascii "online") moment))) ∧
    state.broker.retained availability = lastWord availability state.kept ∧
    (∀ word ∈ state.broker.retained availability, word = ascii "online" ∨ word = ascii "offline") ∧
    (∀ topic ∈ [connection, availability],
      state.broker.lose.retained topic = state.broker.retained topic) ∧
    ∀ happening after, (bridgeRuns lib config identity).next state happening = some after →
      state.kept <+: after.kept := by
  have honest := bridgeRuns_honest reach
  have apart := @will_topic_ne lib config identity
  have online : ∀ message ∈ state.kept, message.topic = connectionTopic lib config →
      ∃ moment, message.payload = lib.serializeJson
        (MQTTClient.statusDocument lib config identity (ascii "online") moment) :=
    fun message listed => (honest.kept message listed).connection
  refine ⟨fun some_message => ?_, honest.last _ apart.2.symm, fun word here => ?_, ?_,
    fun happening after moves => (honest.step moves).2⟩
  · have words : ∀ message ∈ state.kept, message.topic = connectionTopic lib config →
        message.payload ≠ [] := by
      intro message listed there
      obtain ⟨moment, spells⟩ := online message listed there
      rw [spells]
      exact texts _
    obtain ⟨word, last⟩ := Option.isSome_iff_exists.mp (lastWord_isSome words some_message)
    obtain ⟨moment, spells⟩ := lastWord_of_all (fun payload => ∃ moment, payload =
      lib.serializeJson (MQTTClient.statusDocument lib config identity (ascii "online") moment))
      online last
    exact ⟨moment, by rw [honest.last _ apart.1.symm, last, spells]⟩
  · rw [honest.last _ apart.2.symm] at here
    exact lastWord_of_all (fun payload => payload = ascii "online" ∨ payload = ascii "offline")
      (fun message listed => (honest.kept message listed).availability) here
  · simp only [List.forall_mem_cons]
    exact ⟨(honest.silent apart.1.symm).retained_lose, (honest.silent apart.2.symm).retained_lose,
      by simp⟩

end

theorem flatJson_serializeJson_ne_nil (known : List (Bytes × Json)) (document : Json) :
    (flatJson known).serializeJson document ≠ [] := by
  change flatObject _ _ _ document ≠ []
  unfold flatObject
  split
  · simp [ascii]
  · exact scalarText_ne_nil _

/-- A bridge in a network, not connected to it as a station. -/
def sampleInfo : BridgeInfo :=
  ⟨ascii "192.168.1.20", ascii "bridge", ascii "2.0.0", ascii "release", [], [], [], [], [], 120000,
    false, false, [], 0⟩

/-- A link over which the broker accepts the first request. -/
def reachable : Link :=
  ⟨true, false, 10000, false, true, false, true, true, false⟩

/-- The bridge connects and says that it is online. Then it is cut off. -/
theorem bridge_stays_online_cut_off :
    let lib := flatJson []
    let config : Config := ⟨ascii "/config.json",
      .object [(ascii "mqtt_broker", .string (ascii "broker.lan"))], true⟩
    let identity : Identity := ⟨ascii "a1b2c3", ascii "24:6F:28:A1:B2:C3"⟩
    let connection := connectionTopic lib config
    ∃ state : Bridge, state.broker.session = some none ∧
      ∃ moment, state.broker.lose.retained connection = some (lib.serializeJson
        (MQTTClient.statusDocument lib config identity (ascii "online") moment)) := by
  intro lib config identity connection
  have fresh : (bridgeRuns lib config identity).Reaches (fun _ _ => True) _ := .start
  obtain ⟨state, reach, facts⟩ := fresh.test
    [.restart false false,
      .handleConnection sampleInfo (fun _ => ⟨true, true, 10020, 10020⟩) reachable,
      .sendMqtt true, .sendMqtt true]
    (fun state => state.broker.session == some none &&
      state.kept.any fun message => message.topic == connection) (by decide +kernel)
  simp only [Bool.and_eq_true, beq_iff_eq, List.any_eq_true] at facts
  obtain ⟨opened, told⟩ := facts
  obtain ⟨online, -, -, unchanged, -⟩ :=
    bridge_stays_online (flatJson_serializeJson_ne_nil []) reach
  obtain ⟨moment, online⟩ := online told
  exact ⟨state, opened, moment, (unchanged connection List.mem_cons_self).trans online⟩

end ModbusBridge
