import Mathlib.Data.List.Chain
import ModbusBridge.MQTT.Presence

/-!
# Availability

What a run of polls publishes about the availability of the device, told from the outcomes of the
polls and from the messages that the broker has taken before.
-/

namespace ModbusBridge

/-! ## Outcomes and messages -/

/-- A poll that finds its hardware and reads its device. -/
def Circumstances.succeeds (here : Circumstances) : Bool :=
  here.checked.isMAX485Connected && here.tested.testConnection && here.basic.isSome

/-- How many polls in a row have failed last. -/
def failures (polls : List Circumstances) : Nat :=
  (polls.reverse.takeWhile fun here => !here.succeeds).length

theorem failures_concat (polls : List Circumstances) (here : Circumstances) :
    failures (polls ++ [here]) = if here.succeeds then 0 else failures polls + 1 := by
  unfold failures
  cases success : here.succeeds <;> simp [success]

theorem failures_le_length (polls : List Circumstances) : failures polls ≤ polls.length := by
  have taken : (polls.reverse.takeWhile fun here => !here.succeeds).Sublist polls.reverse :=
    List.takeWhile_sublist _
  simpa [failures] using taken.length_le

theorem fails_of_failures {polls : List Circumstances} {here : Circumstances}
    (many : 3 ≤ failures (polls ++ [here])) : here.succeeds = false := by
  rw [failures_concat] at many
  split_ifs at many with success
  · omega
  · simpa using success

/-- The attempts to publish the availability: what, and what the client made of it. -/
def attempts (trace : Trace) : List (Bool × Delivery) :=
  trace.filterMap fun call =>
    match call.1 with
    | .availability online => some (online, call.2)
    | _ => none

/-- The messages about the availability that were published. -/
def published (trace : Trace) : List Message :=
  (attempts trace).filterMap fun attempt =>
    if attempt.2.succeeded then attempt.2.message else none

/-- The text of the message that was published last. -/
def lastPublished (trace : Trace) : Option Bytes :=
  (published trace).getLast?.map Message.payload

/-- The message that says whether the device is available. -/
def availabilityMessage (lib : ArduinoJson) (config : Config) (online : Bool) : Message where
  topic := config.getString lib (ascii "mqtt_topic_prefix") (ascii "home") ++ ascii "/" ++
    getDeviceType (config.getString lib (ascii "device_model") solplanetASWModel) ++
    ascii "/status/availability"
  payload := if online then ascii "online" else ascii "offline"
  retain := config.getBool (ascii "mqtt_retain") true

@[simp] theorem attempts_append (trace rest : Trace) :
    attempts (trace ++ rest) = attempts trace ++ attempts rest :=
  List.filterMap_append

@[simp] theorem published_append (trace rest : Trace) :
    published (trace ++ rest) = published trace ++ published rest := by
  simp [published]

theorem published_eq_nil {trace : Trace} (none : attempts trace = []) : published trace = [] := by
  simp [published, none]

theorem availabilityMessage_topic (lib : ArduinoJson) (config : Config) (online : Bool) :
    (availabilityMessage lib config online).topic = availabilityTopic lib config := by
  simp only [availabilityMessage, availabilityTopic, MQTTClient.buildGenericTopic,
    MQTTClient.getTopicPrefix, MQTTClient.getDeviceType, List.append_assoc]
  rfl

/-- An attempt hands over the message that says what is tried. -/
theorem deliver_availability (lib : ArduinoJson) (config : Config) (identity : Identity)
    (moment : Moment) (online : Bool) :
    (Publication.availability online).deliver lib config identity moment =
      moment.hand (availabilityMessage lib config online) := by
  rw [Publication.deliver, MQTTClient.publishAvailability, MQTTClient.publishStatus,
    MQTTClient.publishGeneric, Moment.hand]
  have topic := availabilityMessage_topic lib config online
  cases moment.connected with
  | false => rfl
  | true =>
      rw [availabilityTopic] at topic
      rw [← topic]
      rfl

/-- The state that an attempt reports. -/
def AvailabilityState.reported : Bool → AvailabilityState
  | true => .online
  | false => .offline

/-- The text that reports a state. -/
def AvailabilityState.word : AvailabilityState → Option Bytes
  | unknown => none
  | online => some (ascii "online")
  | offline => some (ascii "offline")

theorem AvailabilityState.word_inj {state other : AvailabilityState} :
    state.word = other.word ↔ state = other := by
  cases state <;> cases other <;> decide

theorem AvailabilityState.word_reported (lib : ArduinoJson) (config : Config) (online : Bool) :
    (reported online).word = some (availabilityMessage lib config online).payload := by
  cases online <;> rfl

/-! ## What a poll attempts -/

/-- Nothing else is said on the topic of the availability. -/
theorem Publication.Ordinary.apart {publication : Publication} (ordinary : publication.Ordinary)
    {lib : ArduinoJson} {config : Config} {identity : Identity} {moment : Moment}
    {message : Message}
    (sent : message ∈ (publication.deliver lib config identity moment).message) :
    message.topic ≠ availabilityTopic lib config := by
  cases ordinary with
  | isConnected => cases sent
  | telemetry point =>
      rw [topic_of_publishGeneric sent]
      exact (topic_ne (by simp [ascii])).2
  | pollStatus document =>
      rw [topic_of_publishGeneric sent]
      exact (status_ne (by decide)).2
  | hardwareStatus metric document =>
      rw [topic_of_publishGeneric sent]
      exact (topic_ne (by simp [ascii])).2

namespace Poller

variable {lib : ArduinoJson} {here : Circumstances} {trace : Trace}

theorem Elsewhere.attempts (elsewhere : Elsewhere lib here trace) : attempts trace = [] := by
  refine List.filterMap_eq_nil_iff.mpr ?_
  rintro ⟨publication, delivery⟩ listed
  obtain ⟨ordinary, -⟩ := elsewhere.others _ listed
  cases ordinary <;> rfl

theorem Elsewhere.handed (elsewhere : Elsewhere lib here trace) :
    handed (availabilityTopic lib here.config) trace = [] := by
  refine List.filter_eq_nil_iff.mpr fun message listed => ?_
  obtain ⟨call, made, sent⟩ := List.mem_filterMap.mp listed
  obtain ⟨ordinary, moment, result⟩ := elsewhere.others call made
  rw [result] at sent
  simpa using ordinary.apart sent

/-- Two pollers that agree on what reporting needs. -/
structure Agree (before after : Poller) : Prop where
  initialized : after.initialized = before.initialized
  inverter : after.inverter = before.inverter
  failures : after.consecutiveFailures = before.consecutiveFailures
  published : after.publishedAvailability = before.publishedAvailability

theorem readAndPublishTelemetry_spec {poller : Poller} (inverter : poller.inverter.isSome = true)
    (trace : Trace) :
    (readAndPublishTelemetry lib here poller trace).1 = here.basic.isSome ∧
      Agree poller (readAndPublishTelemetry lib here poller trace).2.1 := by
  obtain ⟨device, present⟩ := Option.isSome_iff_exists.mp inverter
  have same : readAndPublishTelemetry lib here poller trace =
      readAndPublishTelemetry lib here { poller with inverter := some device } trace := by
    rw [← present]
  rw [same, readAndPublishTelemetry]
  cases here.basic with
  | none => exact ⟨rfl, rfl, present.symm, rfl, rfl⟩
  | some points => exact ⟨rfl, rfl, present.symm, rfl, rfl⟩

variable (lib here)

/-- All exits of a poll end in `updateAvailability`, with the outcome of the poll. -/
theorem poll_eq {poller : Poller} (initialized : poller.initialized = true)
    (inverter : poller.inverter.isSome = true) :
    ∃ current trace, Agree poller current ∧ Elsewhere lib here trace ∧
      poll lib here poller = updateAvailability lib here current here.succeeds trace := by
  have nothing : Elsewhere lib here [] := ⟨fun _ listed => absurd listed List.not_mem_nil⟩
  have checked (status message : Bytes) :=
    nothing.publishHardwareStatus (ascii "MAX485") status message
  rw [poll, Circumstances.succeeds]
  rw [if_neg (by simp [initialized])]
  dsimp only
  cases here.checked.isMAX485Connected with
  | false =>
      refine ⟨_, _, ?_, ?_, rfl⟩
      · exact ⟨rfl, rfl, rfl, rfl⟩
      · exact (checked _ _).publishPollStatus ..
  | true =>
      cases here.tested.testConnection with
      | false =>
          refine ⟨_, _, ?_, ?_, rfl⟩
          · exact ⟨rfl, rfl, rfl, rfl⟩
          · exact ((checked _ _).publishHardwareStatus ..).publishPollStatus ..
      | true =>
          have present := checked (ascii "connected") (ascii "MAX485 module detected")
          have quiet := present.readAndPublishTelemetry { poller with lastPollTime := here.now }
          obtain ⟨success, agree⟩ := @readAndPublishTelemetry_spec lib here
            { poller with lastPollTime := here.now } inverter (publishHardwareStatus lib here
              (ascii "MAX485") (ascii "connected") (ascii "MAX485 module detected") [])
          simp only [Bool.not_true, Bool.false_eq_true, if_false, Bool.true_and, success]
          cases here.basic.isSome with
          | true =>
              refine ⟨_, _, ?_, ?_, rfl⟩
              · exact ⟨agree.initialized, agree.inverter, agree.failures, agree.published⟩
              · exact (quiet.publishPollStatus ..).publishHardwareStatus ..
          | false =>
              refine ⟨_, _, ?_, ?_, rfl⟩
              · exact ⟨agree.initialized, agree.inverter, agree.failures, agree.published⟩
              · exact (quiet.publishPollStatus ..).publishHardwareStatus ..

/-- What is due to be published after a poll. -/
def due (state : AvailabilityState) (failed : Nat) (success : Bool) : Option Bool :=
  if success then
    if state = .online then none else some true
  else if 3 ≤ failed ∧ state ≠ .offline then some false
  else none

theorem due_online {state : AvailabilityState} {failed : Nat} {success : Bool} :
    due state failed success = some true ↔ success = true ∧ state ≠ .online := by
  rw [due]
  cases success <;> simp

theorem due_offline {state : AvailabilityState} {failed : Nat} {success : Bool} :
    due state failed success = some false ↔ success = false ∧ 3 ≤ failed ∧ state ≠ .offline := by
  rw [due]
  cases success <;> simp

theorem due_change {state : AvailabilityState} {failed : Nat} {success online : Bool}
    (news : due state failed success = some online) : state ≠ .reported online := by
  cases online with
  | true => exact (due_online.mp news).2
  | false => exact (due_offline.mp news).2.2

/-- What is due is attempted once, after all else, and the state changes if the attempt
succeeds. -/
inductive Reports (state : AvailabilityState) : Option Bool → Trace → AvailabilityState → Prop
  | silent {calls : Trace} (elsewhere : Elsewhere lib here calls) : Reports state none calls state
  | tried (online : Bool) {calls : Trace} (elsewhere : Elsewhere lib here calls) :
      Reports state (some online) (ask lib here calls (.availability online))
        (if (answer lib here calls (.availability online)).succeeded then .reported online
          else state)

section

variable {lib here} {state after : AvailabilityState} {news : Option Bool} {calls : Trace}
  {failed : Nat} {online success : Bool}

theorem answer_availability (calls : Trace) (online : Bool) :
    answer lib here calls (.availability online) =
      (here.moments calls.length).hand (availabilityMessage lib here.config online) :=
  deliver_availability ..

theorem Elsewhere.attempts_ask (elsewhere : Elsewhere lib here calls) (online : Bool) :
    ModbusBridge.attempts (Poller.ask lib here calls (.availability online)) =
      [(online, answer lib here calls (.availability online))] := by
  rw [Poller.ask, attempts_append, elsewhere.attempts]
  rfl

theorem Reports.attempts_iff (reports : Reports lib here state news calls after) :
    (∃ delivery, (online, delivery) ∈ attempts calls) ↔ news = some online := by
  cases reports with
  | silent elsewhere => simp [elsewhere.attempts]
  | tried tried elsewhere => simp [elsewhere.attempts_ask, eq_comm]

theorem Reports.length_le (reports : Reports lib here state news calls after) :
    (attempts calls).length ≤ 1 := by
  cases reports with
  | silent elsewhere => simp [elsewhere.attempts]
  | tried tried elsewhere => simp [elsewhere.attempts_ask]

/-- An attempt hands over what is due. -/
theorem Reports.hands (reports : Reports lib here state news calls after) :
    ∀ attempt ∈ attempts calls, ∃ k,
      attempt.2 = (here.moments k).hand (availabilityMessage lib here.config attempt.1) := by
  cases reports with
  | silent elsewhere => simp [elsewhere.attempts]
  | tried online elsewhere =>
      rw [elsewhere.attempts_ask, List.forall_mem_singleton]
      exact ⟨_, answer_availability ..⟩

/-- The attempts hand over all that is said on the topic. -/
theorem Reports.handed_eq (reports : Reports lib here state news calls after) :
    handed (availabilityTopic lib here.config) calls =
      (attempts calls).filterMap fun attempt => attempt.2.message := by
  cases reports with
  | silent elsewhere => rw [elsewhere.handed, elsewhere.attempts, List.filterMap_nil]
  | @tried online calls elsewhere =>
      have topic := availabilityMessage_topic lib here.config online
      rw [elsewhere.attempts_ask, ask, handed_append, elsewhere.handed, answer_availability,
        Moment.hand]
      split <;> simp [handed, topic]

theorem Reports.online_of_accepted
    (reports : Reports lib here state (due state failed success) calls after)
    (accepted : ∀ attempt ∈ attempts calls, attempt.2.succeeded = true)
    (succeeded : success = true) : after = .online := by
  by_cases online : state = .online
  · rw [due, if_pos succeeded, if_pos online] at reports
    cases reports
    exact online
  · rw [due_online.mpr ⟨succeeded, online⟩] at reports
    cases reports with
    | tried _ elsewhere =>
        rw [elsewhere.attempts_ask, List.forall_mem_singleton] at accepted
        exact if_pos accepted

theorem Reports.offline_of_accepted
    (reports : Reports lib here state (due state failed success) calls after)
    (accepted : ∀ attempt ∈ attempts calls, attempt.2.succeeded = true) (many : 3 ≤ failed)
    (fails : success = false) : after = .offline := by
  by_cases offline : state = .offline
  · rw [due, if_neg (by simp [fails]), if_neg (by simp [offline])] at reports
    cases reports
    exact offline
  · rw [due_offline.mpr ⟨fails, many, offline⟩] at reports
    cases reports with
    | tried _ elsewhere =>
        rw [elsewhere.attempts_ask, List.forall_mem_singleton] at accepted
        exact if_pos accepted

end

/-- The failures in a row after a poll. -/
def counted (poller : Poller) (success : Bool) : UInt32 :=
  if success then 0 else poller.consecutiveFailures + 1

theorem updateAvailability_spec (poller : Poller) (success : Bool) {trace : Trace}
    (elsewhere : Elsewhere lib here trace) :
    let result := updateAvailability lib here poller success trace
    result.1.initialized = poller.initialized ∧ result.1.inverter = poller.inverter ∧
      result.1.consecutiveFailures = poller.counted success ∧
      Reports lib here poller.publishedAvailability
        (due poller.publishedAvailability (poller.counted success).toNat success)
        result.2 result.1.publishedAvailability := by
  have threshold : ∀ count : UInt32, count ≥ maxConsecutiveFailures ↔ 3 ≤ count.toNat := by
    intro count
    exact UInt32.le_iff_toNat_le
  cases success with
  | true =>
      simp only [updateAvailability, counted, due, if_true]
      by_cases online : poller.publishedAvailability = .online
      · simp only [online, ne_eq, not_true, if_true, if_false, true_and]
        exact .silent elsewhere
      · simp only [online, ne_eq, not_false_eq_true, if_true, if_false]
        have tried := @Reports.tried lib here poller.publishedAvailability true _ elsewhere
        split_ifs at tried ⊢ <;> exact ⟨rfl, rfl, rfl, tried⟩
  | false =>
      simp only [updateAvailability, counted, due, Bool.false_eq_true, if_false, threshold]
      by_cases crossed : 3 ≤ (poller.consecutiveFailures + 1).toNat ∧
          poller.publishedAvailability ≠ .offline
      · simp only [if_pos crossed]
        have tried := @Reports.tried lib here poller.publishedAvailability false _ elsewhere
        split_ifs at tried ⊢ <;> exact ⟨rfl, rfl, rfl, tried⟩
      · simp only [if_neg crossed, true_and]
        exact .silent elsewhere

/-- A poller after some polls, told from their outcomes and from what has been published. -/
structure Tracks (polls : List Circumstances) (poller : Poller) (trace : Trace) : Prop where
  initialized : poller.initialized = true
  inverter : poller.inverter.isSome = true
  counted : poller.consecutiveFailures.toNat = failures polls
  tracked : lastPublished trace = poller.publishedAvailability.word
  alternate : ((published trace).map Message.payload).IsChain (· ≠ ·)

variable {lib here} {polls : List Circumstances} {poller : Poller} {trace : Trace}

variable (lib) in
theorem Tracks.reports (tracks : Tracks polls poller trace)
    (bounded : failures (polls ++ [here]) < 2 ^ 32) :
    let after := poll lib here poller
    after.1.initialized = true ∧ after.1.inverter.isSome = true ∧
      after.1.consecutiveFailures.toNat = failures (polls ++ [here]) ∧
      Reports lib here poller.publishedAvailability
        (due poller.publishedAvailability (failures (polls ++ [here])) here.succeeds)
        after.2 after.1.publishedAvailability := by
  obtain ⟨current, before, agree, quiet, same⟩ :=
    poll_eq lib here tracks.initialized tracks.inverter
  have counted : (current.counted here.succeeds).toNat = failures (polls ++ [here]) := by
    rw [failures_concat] at bounded ⊢
    rw [Poller.counted]
    split_ifs at bounded ⊢ with success
    · rfl
    · rw [UInt32.toNat_add, agree.failures, tracks.counted]
      exact Nat.mod_eq_of_lt bounded
  obtain ⟨initialized, inverter, failed, reports⟩ :=
    updateAvailability_spec lib here current here.succeeds quiet
  rw [counted, agree.published] at reports
  rw [same]
  refine ⟨?_, ?_, ?_, reports⟩
  · rw [initialized, agree.initialized, tracks.initialized]
  · rw [inverter, agree.inverter, tracks.inverter]
  · rw [failed, counted]

end Poller

/-! ## Runs -/

/-- What an attempt adds to the published messages. -/
theorem published_ask {lib : ArduinoJson} {here : Circumstances} {calls : Trace}
    (elsewhere : Poller.Elsewhere lib here calls) (trace : Trace) (online : Bool) :
    published (trace ++ Poller.ask lib here calls (.availability online)) =
      published trace ++
        if (Poller.answer lib here calls (.availability online)).succeeded then
          [availabilityMessage lib here.config online]
        else [] := by
  have tried := elsewhere.attempts_ask online
  rw [published_append, published, published, tried, Poller.answer_availability, Moment.hand]
  cases (here.moments calls.length).connected <;>
    cases (here.moments calls.length).accepted <;> simp

/-- A message that says something else than the last one keeps the messages alternating. -/
theorem alternate_concat {trace : Trace} {message : Message}
    (alternate : ((published trace).map Message.payload).IsChain (· ≠ ·))
    (change : lastPublished trace ≠ some message.payload) :
    ((published trace ++ [message]).map Message.payload).IsChain (· ≠ ·) := by
  rw [List.map_append]
  refine alternate.append (.singleton _) ?_
  rintro last ends next ⟨⟩ rfl
  refine change ?_
  rw [lastPublished, ← List.getLast?_map]
  exact ends

/-- The run of a poller through polls: the poller and all calls made. -/
def Poller.run (lib : ArduinoJson) (poller : Poller) (polls : List Circumstances) :
    Poller × Trace :=
  polls.foldl (fun before here =>
    let after := poll lib here before.1
    (after.1, before.2 ++ after.2)) (poller, [])

namespace Poller

variable {lib : ArduinoJson} {here : Circumstances} {polls : List Circumstances} {poller : Poller}
  {trace : Trace}

theorem run_concat : run lib poller (polls ++ [here]) =
    let before := run lib poller polls
    let after := poll lib here before.1
    (after.1, before.2 ++ after.2) := by
  simp [run]

variable (lib) in
theorem Tracks.poll (tracks : Tracks polls poller trace)
    (bounded : failures (polls ++ [here]) < 2 ^ 32) :
    Tracks (polls ++ [here]) (poll lib here poller).1 (trace ++ (poll lib here poller).2) := by
  obtain ⟨initialized, inverter, counted, reports⟩ := tracks.reports lib bounded
  generalize news : due poller.publishedAvailability (failures (polls ++ [here])) here.succeeds =
    due at reports
  generalize Poller.poll lib here poller = after at initialized inverter counted reports ⊢
  obtain ⟨after, calls⟩ := after
  dsimp only at initialized inverter counted reports ⊢
  generalize left : after.publishedAvailability = state at reports
  cases reports with
  | silent elsewhere =>
      have same : published (trace ++ calls) = published trace := by
        simp [published_eq_nil elsewhere.attempts]
      refine ⟨initialized, inverter, counted, ?_, same ▸ tracks.alternate⟩
      rw [lastPublished, same, left]
      exact tracks.tracked
  | @tried online calls elsewhere =>
      have ends := published_ask elsewhere trace online
      split_ifs at ends left with succeeded
      · refine ⟨initialized, inverter, counted, ?_, ?_⟩
        · rw [lastPublished, ends, left, AvailabilityState.word_reported lib here.config]
          simp
        · rw [ends]
          refine alternate_concat tracks.alternate ?_
          rw [tracks.tracked, ← AvailabilityState.word_reported lib here.config, ne_eq,
            AvailabilityState.word_inj]
          exact due_change news
      · rw [List.append_nil] at ends
        refine ⟨initialized, inverter, counted, ?_, ends ▸ tracks.alternate⟩
        rw [lastPublished, ends, left]
        exact tracks.tracked

theorem Fresh.tracks (fresh : poller.Fresh) : Tracks [] poller [] where
  initialized := fresh.initialized
  inverter := fresh.inverter
  counted := by simp [fresh.noFailures, failures]
  tracked := by rw [fresh.unpublished]; rfl
  alternate := .nil

variable (lib) in
theorem Fresh.run (fresh : poller.Fresh) (polls : List Circumstances)
    (bounded : ∀ earlier, earlier <+: polls → failures earlier < 2 ^ 32) :
    Tracks polls (run lib poller polls).1 (run lib poller polls).2 := by
  induction polls using List.reverseRecOn with
  | nil => exact fresh.tracks
  | append_singleton polls here induction =>
      rw [run_concat]
      have before := induction fun earlier isPrefix =>
        bounded earlier (isPrefix.trans (List.prefix_append _ _))
      exact before.poll lib (bounded _ List.prefix_rfl)

/-- Availability reporting is exact: what a poll attempts follows from the outcomes of the polls and
from the message published last; an attempt hands the broker the message that says so, and nothing
else is said on its topic; the published messages alternate; and a poll without a failed attempt
leaves the right message published. -/
theorem availability_exact (fresh : poller.Fresh) (polls : List Circumstances)
    (last : Circumstances)
    (bounded : ∀ earlier, earlier <+: polls ++ [last] → failures earlier < 2 ^ 32) :
    let before := run lib poller polls
    let calls := (Poller.poll lib last before.1).2
    let after := run lib poller (polls ++ [last])
    ((∃ delivery, (false, delivery) ∈ attempts calls) ↔ last.succeeds = false ∧
      3 ≤ failures (polls ++ [last]) ∧ lastPublished before.2 ≠ some (ascii "offline")) ∧
    ((∃ delivery, (true, delivery) ∈ attempts calls) ↔ last.succeeds = true ∧
      lastPublished before.2 ≠ some (ascii "online")) ∧
    (attempts calls).length ≤ 1 ∧
    (∀ attempt ∈ attempts calls, ∃ k,
      attempt.2 = (last.moments k).hand (availabilityMessage lib last.config attempt.1)) ∧
    (∀ online, handed (availabilityMessage lib last.config online).topic calls =
      (attempts calls).filterMap fun attempt => attempt.2.message) ∧
    ((published after.2).map Message.payload).IsChain (· ≠ ·) ∧
    ((∀ attempt ∈ attempts calls, attempt.2.succeeded = true) →
      (last.succeeds = true → lastPublished after.2 = some (ascii "online")) ∧
      (3 ≤ failures (polls ++ [last]) → lastPublished after.2 = some (ascii "offline"))) := by
  have tracks := fresh.run lib polls fun earlier isPrefix =>
    bounded earlier (isPrefix.trans (List.prefix_append _ _))
  have now := tracks.poll lib (bounded _ List.prefix_rfl)
  obtain ⟨-, -, -, reports⟩ := tracks.reports lib (bounded _ List.prefix_rfl)
  have said (state : AvailabilityState) :
      lastPublished (run lib poller polls).2 ≠ state.word ↔
        (run lib poller polls).1.publishedAvailability ≠ state := by
    rw [tracks.tracked, ne_eq, AvailabilityState.word_inj]
  dsimp only
  rw [run_concat]
  refine ⟨?_, ?_, reports.length_le, reports.hands, fun online => ?_, now.alternate, ?_⟩
  · rw [reports.attempts_iff, due_offline, ← said .offline]
    rfl
  · rw [reports.attempts_iff, due_online, ← said .online]
    rfl
  · rw [availabilityMessage_topic]
    exact reports.handed_eq
  · intro accepted
    dsimp only
    rw [now.tracked]
    refine ⟨fun succeeded => ?_, fun many => ?_⟩
    · rw [reports.online_of_accepted accepted succeeded]
      rfl
    · rw [reports.offline_of_accepted accepted many (fails_of_failures many)]
      rfl

/-- A connected poller that reads one point, or none. -/
def sample (reads : Bool) : Circumstances where
  config := ⟨ascii "/config.json", .object [], true⟩
  identity := ⟨ascii "a1b2c3", ascii "A0:B1:C2:A1:B2:C3"⟩
  now := 10000
  checked := ⟨true, 4⟩
  tested := ⟨true, 4⟩
  basic := if reads then some [⟨ascii "voltage", ascii "V", ascii "230"⟩] else none
  storage := none
  moments _ := ⟨true, true, 10100, 10100⟩

/-- The third failure after a success is handed to the broker. -/
theorem availability_exact_offline :
    (false, ⟨some (availabilityMessage (flatJson []) (sample false).config false), true⟩) ∈
      attempts (Poller.poll (flatJson []) (sample false)
        (run (flatJson []) { create with initialized := true, inverter := some .solplanetASW }
          [sample true, sample false, sample false]).1).2 := by
  obtain ⟨offline, -, -, hands, -⟩ := @availability_exact (flatJson [])
    { create with initialized := true, inverter := some .solplanetASW } ⟨rfl, rfl, rfl, rfl⟩
    [sample true, sample false, sample false] (sample false) fun _ isPrefix =>
      ((failures_le_length _).trans isPrefix.length_le).trans_lt (by decide)
  obtain ⟨delivery, attempted⟩ := offline.mpr (by decide +kernel)
  obtain ⟨k, same⟩ := hands _ attempted
  obtain rfl : delivery = ⟨some (availabilityMessage _ _ false), true⟩ := same
  exact attempted

end Poller

end ModbusBridge
