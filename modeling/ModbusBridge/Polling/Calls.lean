import ModbusBridge.Polling.Poller

/-!
# The calls of a poll

What a poll asks of the MQTT client: ordinary calls, and at its end perhaps one that tries to
publish the availability.
-/

namespace ModbusBridge

/-- The messages that are handed to the broker on a topic. -/
def handed (topic : Bytes) (trace : Trace) : List Message :=
  (trace.filterMap fun call => call.2.message).filter fun message => message.topic = topic

/-- Without a connection a message is not handed over. With one, the broker takes it or not. -/
def Moment.hand (moment : Moment) (message : Message) : Delivery :=
  if moment.connected then ⟨some message, moment.accepted⟩ else ⟨none, false⟩

@[simp] theorem handed_append (topic : Bytes) (trace rest : Trace) :
    handed topic (trace ++ rest) = handed topic trace ++ handed topic rest := by
  simp [handed]

theorem topic_of_publishGeneric {lib : ArduinoJson} {config : Config} {moment : Moment}
    {dataType metric payload : Bytes} {retain : Bool} {message : Message}
    (sent : message ∈ (MQTTClient.publishGeneric lib config moment dataType metric payload
      retain).message) :
    message.topic = MQTTClient.buildGenericTopic lib config dataType metric := by
  rw [MQTTClient.publishGeneric] at sent
  split at sent
  · contradiction
  · obtain rfl := Option.some.inj sent
    rfl

/-- What a poll publishes besides the availability. -/
inductive Publication.Ordinary : Publication → Prop
  | isConnected : Ordinary .isConnected
  | telemetry (point : TelemetryPoint) : Ordinary (.telemetry point)
  | pollStatus (document : Json) :
      Ordinary (.json (ascii "status") (ascii "poll_status") document)
  | hardwareStatus (metric : Bytes) (document : Json) :
      Ordinary (.json (ascii "hardware") metric document)

namespace Poller

variable {lib : ArduinoJson} {here : Circumstances} {trace : Trace}

/-- The calls so far are none about the availability. -/
structure Elsewhere (lib : ArduinoJson) (here : Circumstances) (trace : Trace) : Prop where
  others : ∀ call ∈ trace, call.1.Ordinary ∧
    ∃ moment, call.2 = call.1.deliver lib here.config here.identity moment

theorem Elsewhere.ask (elsewhere : Elsewhere lib here trace) {publication : Publication}
    (ordinary : publication.Ordinary) : Elsewhere lib here (ask lib here trace publication) := by
  refine ⟨fun call listed => ?_⟩
  rcases List.mem_append.mp listed with before | now
  · exact elsewhere.others call before
  · obtain rfl := List.mem_singleton.mp now
    exact ⟨ordinary, _, rfl⟩

theorem Elsewhere.publishPollStatus (elsewhere : Elsewhere lib here trace) (poller : Poller)
    (success : Bool) (error : Bytes) :
    Elsewhere lib here (publishPollStatus lib here poller success error trace) :=
  elsewhere.ask (.pollStatus _)

theorem Elsewhere.publishHardwareStatus (elsewhere : Elsewhere lib here trace)
    (component status message : Bytes) :
    Elsewhere lib here (publishHardwareStatus lib here component status message trace) :=
  elsewhere.ask (.hardwareStatus _ _)

theorem Elsewhere.publishTelemetryPoints (elsewhere : Elsewhere lib here trace)
    (points : List TelemetryPoint) :
    Elsewhere lib here (publishTelemetryPoints lib here points trace) := by
  have asked := elsewhere.ask .isConnected
  rw [Poller.publishTelemetryPoints]
  split
  · exact asked
  · generalize Poller.ask lib here trace .isConnected = calls at asked
    clear elsewhere
    induction points generalizing calls with
    | nil => exact asked
    | cons point points induction =>
        rw [List.foldl_cons]
        split
        · exact induction _ asked
        · exact induction _ (asked.ask (.telemetry point))

theorem Elsewhere.readAndPublishTelemetry (elsewhere : Elsewhere lib here trace)
    (poller : Poller) :
    Elsewhere lib here (readAndPublishTelemetry lib here poller trace).2.2 := by
  rw [Poller.readAndPublishTelemetry]
  cases poller.inverter with
  | none => exact elsewhere
  | some device =>
      cases here.basic with
      | none => exact elsewhere
      | some basicPoints =>
          have basic := elsewhere.publishTelemetryPoints basicPoints
          dsimp only
          split
          · cases here.storage with
            | none => exact basic
            | some storagePoints =>
                dsimp only
                split
                · exact basic.publishTelemetryPoints storagePoints
                · exact basic
          · exact basic

/-- Each call is an ordinary one or tries to publish the availability. -/
structure Calls (lib : ArduinoJson) (here : Circumstances) (trace : Trace) : Prop where
  each : ∀ call ∈ trace, (call.1.Ordinary ∨ ∃ online, call.1 = .availability online) ∧
    ∃ moment, call.2 = call.1.deliver lib here.config here.identity moment

theorem Elsewhere.calls (elsewhere : Elsewhere lib here trace) : Calls lib here trace := by
  refine ⟨fun call listed => ?_⟩
  obtain ⟨ordinary, ends⟩ := elsewhere.others call listed
  exact ⟨.inl ordinary, ends⟩

theorem Elsewhere.tried (elsewhere : Elsewhere lib here trace) (online : Bool) :
    Calls lib here (Poller.ask lib here trace (.availability online)) := by
  refine ⟨fun call listed => ?_⟩
  rcases List.mem_append.mp listed with before | now
  · exact elsewhere.calls.each call before
  · obtain rfl := List.mem_singleton.mp now
    exact ⟨.inr ⟨online, rfl⟩, _, rfl⟩

theorem Elsewhere.updateAvailability (elsewhere : Elsewhere lib here trace) (poller : Poller)
    (success : Bool) : Calls lib here (updateAvailability lib here poller success trace).2 := by
  rw [Poller.updateAvailability]
  dsimp only
  split_ifs
  · exact elsewhere.tried true
  · exact elsewhere.tried true
  · exact elsewhere.calls
  · exact elsewhere.tried false
  · exact elsewhere.tried false
  · exact elsewhere.calls

theorem poll_calls (poller : Poller) : Calls lib here (poll lib here poller).2 := by
  have nothing : Elsewhere lib here [] := ⟨fun _ listed => absurd listed List.not_mem_nil⟩
  have checked (status message : Bytes) :=
    nothing.publishHardwareStatus (ascii "MAX485") status message
  rw [poll]
  split_ifs
  · exact nothing.calls
  · exact ((checked _ _).publishPollStatus ..).updateAvailability ..
  · exact (((checked _ _).publishHardwareStatus ..).publishPollStatus ..).updateAvailability ..
  · have read (poller : Poller) := ((checked (ascii "connected")
      (ascii "MAX485 module detected")).readAndPublishTelemetry poller)
    dsimp only
    split_ifs
    · exact (((read _).publishPollStatus ..).publishHardwareStatus ..).updateAvailability ..
    · exact (((read _).publishPollStatus ..).publishHardwareStatus ..).updateAvailability ..

end Poller

end ModbusBridge
