import ModbusBridge.Polling.Availability

/-!
# Poll statistics

Every poll counts itself as successful or failed, and publishes the two counters. The exits for
missing hardware publish before they count.
-/

namespace ModbusBridge

/-- The document of a `poll_status` message. -/
def Publication.report : Publication → Option Json
  | .json dataType metric document =>
      if dataType = ascii "status" ∧ metric = ascii "poll_status" then some document else none
  | _ => none

/-- The reports of some calls, and what the client made of them. -/
def reports (trace : Trace) : List (Json × Delivery) :=
  trace.filterMap fun call => call.1.report.map fun document => (document, call.2)

/-- Both counters of a report, added. -/
def pollsReported (document : Json) : Option Int :=
  match document.member (ascii "successful_polls"), document.member (ascii "failed_polls") with
  | .integer successful, .integer failed => some (successful + failed)
  | _, _ => none

/-- The sums in the `poll_status` messages of some calls, in their order. -/
def statistics (trace : Trace) : List Int :=
  (reports trace).filterMap fun report => pollsReported report.1

/-- The message that carries a report. -/
def reportMessage (lib : ArduinoJson) (config : Config) (document : Json) : Message where
  topic := config.getString lib (ascii "mqtt_topic_prefix") (ascii "home") ++ ascii "/" ++
    getDeviceType (config.getString lib (ascii "device_model") solplanetASWModel) ++
    ascii "/status/poll_status"
  payload := lib.serializeJson document
  retain := config.getBool (ascii "mqtt_retain") true

@[simp] theorem reports_nil : reports [] = [] := rfl

@[simp] theorem reports_append (trace rest : Trace) :
    reports (trace ++ rest) = reports trace ++ reports rest :=
  List.filterMap_append

/-- The topic of the reports. -/
def reportTopic (lib : ArduinoJson) (config : Config) : Bytes :=
  MQTTClient.buildGenericTopic lib config (ascii "status") (ascii "poll_status")

theorem reportMessage_topic (lib : ArduinoJson) (config : Config) (document : Json) :
    (reportMessage lib config document).topic = reportTopic lib config := by
  simp only [reportMessage, reportTopic, MQTTClient.buildGenericTopic,
    MQTTClient.getTopicPrefix, MQTTClient.getDeviceType, List.append_assoc]
  rfl

/-- A report is handed over as its message. -/
theorem deliver_report (lib : ArduinoJson) (config : Config) (identity : Identity)
    (moment : Moment) (document : Json) :
    (Publication.json (ascii "status") (ascii "poll_status") document).deliver lib config identity
      moment = moment.hand (reportMessage lib config document) := by
  rw [Publication.deliver, MQTTClient.publishJson, MQTTClient.publishGeneric, Moment.hand]
  have topic := reportMessage_topic lib config document
  cases moment.connected with
  | false => rfl
  | true =>
      rw [reportTopic] at topic
      rw [← topic]
      rfl

theorem reportTopic_ne {lib : ArduinoJson} {config : Config} {dataType metric : Bytes}
    (apart : dataType ++ ascii "/" ++ metric ≠ ascii "status" ++ ascii "/" ++
      ascii "poll_status") :
    MQTTClient.buildGenericTopic lib config dataType metric ≠ reportTopic lib config := by
  rwa [reportTopic, ne_eq, buildGenericTopic_inj]

/-- Among the messages of a poll, the reports are those on their topic. -/
theorem topic_iff_report {publication : Publication}
    (kind : publication.Ordinary ∨ ∃ online, publication = .availability online)
    {lib : ArduinoJson} {config : Config} {identity : Identity} {moment : Moment}
    {message : Message}
    (sent : message ∈ (publication.deliver lib config identity moment).message) :
    message.topic = reportTopic lib config ↔ publication.report.isSome = true := by
  have first {dataType metric : Bytes}
      (apart : (dataType ++ ascii "/" ++ metric).head? ≠ (ascii "status").head?) :
      dataType ++ ascii "/" ++ metric ≠ ascii "status" ++ ascii "/" ++ ascii "poll_status" :=
    fun same => apart (by rw [same]; rfl)
  rcases kind with ordinary | ⟨online, rfl⟩
  · cases ordinary with
    | isConnected => cases sent
    | telemetry point =>
        rw [topic_of_publishGeneric sent]
        exact iff_of_false (reportTopic_ne (first (by simp [ascii]))) (by simp [Publication.report])
    | pollStatus document =>
        rw [topic_of_publishGeneric sent]
        exact iff_of_true rfl rfl
    | hardwareStatus metric document =>
        rw [topic_of_publishGeneric sent]
        refine iff_of_false (reportTopic_ne (first (by simp [ascii]))) ?_
        rw [Publication.report, if_neg (by rintro ⟨same, -⟩; exact absurd same (by decide))]
        exact Bool.false_ne_true
  · rw [topic_of_publishGeneric sent]
    exact iff_of_false (reportTopic_ne (by decide)) (by simp [Publication.report])

/-- The reports of a poll hand over all that is said on their topic. -/
theorem Poller.Calls.handed_reports {lib : ArduinoJson} {here : Circumstances} {trace : Trace}
    (calls : Poller.Calls lib here trace) :
    handed (reportTopic lib here.config) trace =
      (reports trace).filterMap fun report => report.2.message := by
  induction trace with
  | nil => rfl
  | cons call trace induction =>
      have later : Poller.Calls lib here trace :=
        ⟨fun call listed => calls.each call (List.mem_cons_of_mem _ listed)⟩
      obtain ⟨kind, moment, ends⟩ := calls.each call List.mem_cons_self
      obtain ⟨publication, message, succeeded⟩ := call
      dsimp only at kind ends
      have topic := @topic_iff_report publication kind lib here.config here.identity moment
      rw [← ends] at topic
      have alone : handed (reportTopic lib here.config) [(publication, ⟨message, succeeded⟩)] =
          (reports [(publication, ⟨message, succeeded⟩)]).filterMap
            fun report => report.2.message := by
        cases message with
        | none => cases made : publication.report <;> simp [handed, reports, made]
        | some message =>
            have topic := topic rfl
            cases made : publication.report with
            | none => simpa [handed, reports, made] using topic
            | some document => simpa [handed, reports, made] using topic
      rw [← List.singleton_append, handed_append, reports_append, List.filterMap_append, alone,
        induction later]

/-- A poll that finds its transceiver, at both checks. -/
def Circumstances.hardware (here : Circumstances) : Bool :=
  here.checked.isMAX485Connected && here.tested.testConnection

namespace Poller

/-- The polls that a poller has counted. -/
def counters (poller : Poller) : Nat :=
  poller.successfulPolls.toNat + poller.failedPolls.toNat

variable (lib : ArduinoJson) (here : Circumstances)

/-! ## What each call adds -/

/-- One report is made, which counts some polls. -/
def OneReport (polls : Nat) (made : List (Json × Delivery)) : Prop :=
  ∃ document, ∃ moment : Moment,
    made = [(document, moment.hand (reportMessage lib here.config document))] ∧
      pollsReported document = some (polls : Int)

theorem reports_publishPollStatus {poller : Poller} {polls : Nat}
    (counted : poller.counters = polls) (success : Bool) (error : Bytes) {trace : Trace}
    (none : reports trace = []) :
    OneReport lib here polls
      (reports (publishPollStatus lib here poller success error trace)) := by
  have made (document : Json) :
      reports (ask lib here trace (.json (ascii "status") (ascii "poll_status") document)) =
        [(document, (here.moments trace.length).hand
          (reportMessage lib here.config document))] := by
    rw [ask, reports_append, none, answer, deliver_report]
    rfl
  subst counted
  refine ⟨_, _, made _, ?_⟩
  split_ifs <;> rfl

@[simp] theorem reports_publishHardwareStatus (component status message : Bytes)
    (trace : Trace) :
    reports (publishHardwareStatus lib here component status message trace) = reports trace := by
  rw [publishHardwareStatus]
  simp only [ask, reports_append]
  exact List.append_nil _

@[simp] theorem reports_publishTelemetryPoints (points : List TelemetryPoint) (trace : Trace) :
    reports (publishTelemetryPoints lib here points trace) = reports trace := by
  have each : ∀ trace : Trace, reports (points.foldl (fun trace point =>
      if point.value = [] then trace else ask lib here trace (.telemetry point)) trace) =
        reports trace := by
    induction points with
    | nil => simp
    | cons point points induction =>
        intro trace
        rw [List.foldl_cons, induction]
        split_ifs <;> simp [ask, reports, Publication.report]
  have asked : reports (ask lib here trace .isConnected) = reports trace := by
    simp [ask, reports, Publication.report]
  unfold publishTelemetryPoints
  dsimp only
  split_ifs
  · exact asked
  · rw [each, asked]

/-- Two pollers that have counted the same polls. -/
structure SameCounts (before after : Poller) : Prop where
  initialized : after.initialized = before.initialized
  successful : after.successfulPolls = before.successfulPolls
  failed : after.failedPolls = before.failedPolls

theorem SameCounts.counters {before after : Poller} (same : SameCounts before after) :
    after.counters = before.counters := by
  rw [Poller.counters, Poller.counters, same.successful, same.failed]

theorem readAndPublishTelemetry_counted (poller : Poller) (trace : Trace) :
    SameCounts poller (readAndPublishTelemetry lib here poller trace).2.1 ∧
      reports (readAndPublishTelemetry lib here poller trace).2.2 = reports trace := by
  rw [readAndPublishTelemetry]
  cases poller.inverter with
  | none => exact ⟨⟨rfl, rfl, rfl⟩, rfl⟩
  | some device =>
      cases here.basic with
      | none => exact ⟨⟨rfl, rfl, rfl⟩, rfl⟩
      | some points =>
          refine ⟨⟨rfl, rfl, rfl⟩, ?_⟩
          dsimp only
          split_ifs
          · cases here.storage with
            | none => simp
            | some storagePoints =>
                dsimp only
                split_ifs <;> simp
          · simp

theorem updateAvailability_counted (poller : Poller) (success : Bool) (trace : Trace) :
    SameCounts poller (updateAvailability lib here poller success trace).1 ∧
      reports (updateAvailability lib here poller success trace).2 = reports trace := by
  have asked : ∀ online, reports (ask lib here trace (.availability online)) =
      reports trace := by
    intro online
    simp [ask, reports, Publication.report]
  rw [updateAvailability]
  dsimp only
  split_ifs <;> exact ⟨⟨rfl, rfl, rfl⟩, by first | rfl | exact asked _⟩

/-! ## A poll and a run -/

theorem counters_failed {poller : Poller} (bounded : poller.counters + 1 < 2 ^ 32) :
    { poller with failedPolls := poller.failedPolls + 1 }.counters = poller.counters + 1 := by
  simp only [counters] at bounded ⊢
  rw [UInt32.toNat_add, UInt32.toNat_one, Nat.mod_eq_of_lt (by omega)]
  omega

theorem counters_successful {poller : Poller} (bounded : poller.counters + 1 < 2 ^ 32) :
    { poller with successfulPolls := poller.successfulPolls + 1 }.counters =
      poller.counters + 1 := by
  simp only [counters] at bounded ⊢
  rw [UInt32.toNat_add, UInt32.toNat_one, Nat.mod_eq_of_lt (by omega)]
  omega

/-- With the hardware there, both exits of a poll count the poll in front of their message. -/
theorem poll_exit_present {poller : Poller} (initialized : poller.initialized = true)
    (bounded : poller.counters + 1 < 2 ^ 32) (present : here.hardware = true) :
    ∃ current success trace, current.initialized = true ∧
      current.counters = poller.counters + 1 ∧
      OneReport lib here (poller.counters + 1) (reports trace) ∧
      poll lib here poller = updateAvailability lib here current success trace := by
  obtain ⟨checked, tested⟩ := (Bool.and_eq_true _ _).mp present
  obtain ⟨same, quiet⟩ := readAndPublishTelemetry_counted lib here
    { poller with lastPollTime := here.now }
    (publishHardwareStatus lib here (ascii "MAX485") (ascii "connected")
      (ascii "MAX485 module detected") [])
  rw [reports_publishHardwareStatus, reports_nil] at quiet
  have begun : ¬(!poller.initialized) = true := by simp [initialized]
  rw [poll, if_neg begun]
  dsimp only
  rw [checked, tested]
  simp only [Bool.not_true, Bool.false_eq_true, if_false]
  generalize readAndPublishTelemetry lib here { poller with lastPollTime := here.now }
    (publishHardwareStatus lib here (ascii "MAX485") (ascii "connected")
      (ascii "MAX485 module detected") []) = read at same quiet ⊢
  obtain ⟨success, current, trace⟩ := read
  have counted : current.counters = poller.counters := same.counters
  have ready : current.initialized = true := same.initialized.trans initialized
  rw [← counted] at bounded ⊢
  dsimp only at quiet ⊢
  cases success with
  | true =>
      refine ⟨_, true, _, ?_, ?_, ?_, rfl⟩
      · exact ready
      · exact counters_successful bounded
      · rw [reports_publishHardwareStatus]
        exact reports_publishPollStatus lib here (counters_successful bounded) _ _ quiet
  | false =>
      refine ⟨_, false, _, ?_, ?_, ?_, rfl⟩
      · exact ready
      · exact counters_failed bounded
      · rw [reports_publishHardwareStatus]
        exact reports_publishPollStatus lib here (counters_failed bounded) _ _ quiet

/-- Every exit of a poll has counted the poll and published one message, which counts this poll
unless the hardware is missing, when it comes to `updateAvailability`. -/
theorem poll_exit {poller : Poller} (initialized : poller.initialized = true)
    (bounded : poller.counters + 1 < 2 ^ 32) :
    ∃ current success trace, current.initialized = true ∧
      current.counters = poller.counters + 1 ∧
      OneReport lib here (poller.counters + if here.hardware then 1 else 0) (reports trace) ∧
      poll lib here poller = updateAvailability lib here current success trace := by
  cases present : here.hardware with
  | true => simpa using poll_exit_present lib here initialized bounded present
  | false =>
      have begun : ¬(!poller.initialized) = true := by simp [initialized]
      rw [poll, if_neg begun]
      dsimp only
      cases checked : here.checked.isMAX485Connected with
      | false =>
          refine ⟨_, false, _, ?_, ?_, ?_, rfl⟩
          · exact initialized
          · exact counters_failed bounded
          · exact reports_publishPollStatus lib here rfl _ _ (by simp)
      | true =>
          have tested : here.tested.testConnection = false := by
            simpa [Circumstances.hardware, checked] using present
          rw [tested]
          refine ⟨_, false, _, ?_, ?_, ?_, rfl⟩
          · exact initialized
          · exact counters_failed bounded
          · exact reports_publishPollStatus lib here rfl _ _ (by simp)

theorem poll_counts {poller : Poller} (initialized : poller.initialized = true)
    (bounded : poller.counters + 1 < 2 ^ 32) :
    let after := poll lib here poller
    after.1.initialized = true ∧ after.1.counters = poller.counters + 1 ∧
      OneReport lib here (poller.counters + if here.hardware then 1 else 0) (reports after.2) := by
  obtain ⟨current, success, trace, ready, counted, published, same⟩ :=
    poll_exit lib here initialized bounded
  obtain ⟨kept, quiet⟩ := updateAvailability_counted lib here current success trace
  rw [same]
  exact ⟨kept.initialized.trans ready, kept.counters.trans counted, quiet ▸ published⟩

variable {lib here}

theorem run_counts {poller : Poller} (initialized : poller.initialized = true)
    (fresh : poller.counters = 0) (polls : List Circumstances) (bounded : polls.length < 2 ^ 32) :
    (run lib poller polls).1.initialized = true ∧
      (run lib poller polls).1.counters = polls.length := by
  induction polls using List.reverseRecOn with
  | nil => exact ⟨initialized, fresh⟩
  | append_singleton polls here induction =>
      rw [List.length_append, List.length_singleton] at bounded
      obtain ⟨ready, counted⟩ := induction (by omega)
      obtain ⟨remains, next, -⟩ := poll_counts lib here ready (by rwa [counted])
      rw [run_concat, List.length_append, List.length_singleton]
      exact ⟨remains, next.trans (by rw [counted])⟩

/-- `begin` counts nothing. -/
theorem begin_counts (poller : Poller) (modbusInitialized : Bool) (config : Config)
    (starts : Bool) :
    (poller.begin lib modbusInitialized config starts).2.counters = poller.counters := by
  simp only [begin, initializeInverter]
  split_ifs <;> rfl

theorem create_counts : create.counters = 0 := rfl

/-- The message of the n-th poll counts n polls exactly when this poll finds its hardware. It is the
one report of that poll: its document is handed to the broker, and nothing else on its topic. -/
theorem statistics_iff {poller : Poller} (initialized : poller.initialized = true)
    (fresh : poller.counters = 0) (polls : List Circumstances) (last : Circumstances)
    (bounded : (polls ++ [last]).length < 2 ^ 32) :
    let calls := (Poller.poll lib last (run lib poller polls).1).2
    (statistics calls = [((polls ++ [last]).length : Int)] ↔
      last.checked.isMAX485Connected = true ∧ last.tested.testConnection = true) ∧
    ∃ document, ∃ moment : Moment,
      reports calls = [(document, moment.hand (reportMessage lib last.config document))] ∧
      handed (reportMessage lib last.config document).topic calls =
        (moment.hand (reportMessage lib last.config document)).message.toList := by
  rw [List.length_append, List.length_singleton] at bounded ⊢
  obtain ⟨ready, counted⟩ := @run_counts lib poller initialized fresh polls (by omega)
  obtain ⟨-, -, document, moment, made, sum⟩ := poll_counts lib last ready (by rwa [counted])
  rw [counted] at sum
  refine ⟨?_, document, moment, made, ?_⟩
  · have listed : statistics (poll lib last (run lib poller polls).1).2 =
        [((polls.length + if last.hardware then 1 else 0 : Nat) : Int)] := by
      simp only [statistics, made, List.filterMap_cons, List.filterMap_nil, sum]
    have less : (polls.length : Int) ≠ polls.length + 1 := by omega
    rw [listed, ← Bool.and_eq_true, ← Circumstances.hardware]
    cases last.hardware <;> simp [less]
  · rw [reportMessage_topic, (poll_calls _).handed_reports, made]
    generalize moment.hand (reportMessage lib last.config document) = delivery
    obtain ⟨message, succeeded⟩ := delivery
    cases message <;> rfl

/-- A configuration without a DE/RE pin. -/
def pinless : Circumstances :=
  { sample true with
    config := ⟨ascii "/config.json", .object [(ascii "rs485_de_re_pin", .integer (-1))], true⟩
    checked := ⟨true, -1⟩
    tested := ⟨true, -1⟩ }

/-- A successful poll after one of each kind: a success, two without a transceiver and a failed
read. -/
theorem statistics_iff_mixed :
    statistics (Poller.poll (flatJson []) (sample true)
        (run (flatJson []) (begin (flatJson []) create true (sample true).config true).2
          [sample true, pinless, { pinless with checked := ⟨true, 4⟩ }, sample false]).1).2 =
      [5] :=
  (statistics_iff (by decide +kernel) (by decide +kernel)
    [sample true, pinless, { pinless with checked := ⟨true, 4⟩ }, sample false] (sample true)
    (by decide)).1.mpr ⟨rfl, rfl⟩

/-- The first poll without a transceiver reports no poll at all. -/
theorem statistics_pinless :
    statistics (Poller.poll (flatJson []) pinless
        (run (flatJson []) (begin (flatJson []) create true pinless.config true).2 []).1).2 ≠
      [(([] ++ [pinless]).length : Int)] := by
  decide +kernel

end Poller

end ModbusBridge
