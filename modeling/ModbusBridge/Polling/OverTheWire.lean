import ModbusBridge.Devices.Isolation
import ModbusBridge.Modbus.ErrorDetection
import ModbusBridge.Modbus.Retry
import ModbusBridge.Polling.CustomDevice

/-!
# Polls over the wire

What a poll hands to the broker when the reads of its device go through the Modbus client, over a
line that loses replies, cuts them short and flips bits: register values that a server held.
-/

namespace ModbusBridge

open ShiftRegister GenericModbusDevice

/-! ## A line -/

/-- The frame of a request. -/
def ReadRequest.frame (request : ReadRequest) : Bytes :=
  buildReadFrame request.slaveId request.function request.startAddr request.count

/-- What may arrive of a reply: the front of it, with an odd number of bits flipped or with all
flips within sixteen positions. -/
def Arrives (reply received : Bytes) : Prop :=
  ∃ error : Bytes, error.length = reply.length ∧ (Odd (flips error) ∨ Burst 16 error) ∧
    received <+: corrupt reply error

/-- In an exchange, the client receives what arrives of the reply to its request, or nothing. -/
def Carries (client : ModbusClient) (station : Station) (request : Bytes) (bus : Exchange) :
    Prop :=
  ∀ received, client.delivered bus = some received →
    received = [] ∨ ∃ reply, station.serve request = some reply ∧ Arrives reply received

theorem corrupt_length {frame error : Bytes} (same : error.length = frame.length) :
    (corrupt frame error).length = frame.length := by
  rw [corrupt, List.length_zipWith, same, Nat.min_self]

theorem corrupt_of_zero {frame error : Bytes} (same : error.length = frame.length)
    (zero : ∀ byte ∈ error, byte = 0) : corrupt frame error = frame := by
  induction frame generalizing error with
  | nil => rfl
  | cons byte frame induction =>
      cases error with
      | nil => contradiction
      | cons flip error =>
          obtain rfl := zero flip List.mem_cons_self
          rw [corrupt, List.zipWith_cons_cons, UInt8.xor_zero]
          exact congrArg _ (induction (Nat.succ.inj same)
            fun other listed => zero other (List.mem_cons_of_mem _ listed))

theorem burst_of_zero {error : Bytes} (zero : ∀ byte ∈ error, byte = 0) : Burst 16 error := by
  refine ⟨0, fun position flipped => ?_⟩
  have nothing : error.getD (position / 8) 0 = 0 := by
    rw [List.getD_eq_getElem?_getD]
    cases there : error[position / 8]? with
    | none => rfl
    | some byte => exact zero byte (List.mem_of_getElem? there)
  rw [bitAt, nothing] at flipped
  simp at flipped

/-- A frame that arrives damaged is not valid. -/
theorem eq_of_arrives_valid {body received : Bytes} (nonempty : body ≠ [])
    (arrives : Arrives (withChecksum body) received)
    (whole : (withChecksum body).length ≤ received.length)
    (valid : validateCRC received = true) : received = withChecksum body := by
  obtain ⟨error, same, pattern, front⟩ := arrives
  have long := corrupt_length same
  obtain rfl := front.eq_of_length_le (long.trans_le whole)
  refine corrupt_of_zero same ?_
  by_contra nonzero
  simp only [not_forall] at nonzero
  obtain ⟨byte, listed, flipped⟩ := nonzero
  rw [← withCRC_eq_withChecksum] at same valid
  have refused := (validateCRC_detects nonempty).2 error same ⟨byte, listed, flipped⟩ pattern
  rw [valid] at refused
  contradiction

/-- What the client takes over such a line is the reply of the station. -/
theorem candidate_genuine {client : ModbusClient} {station : Station} {table : Table}
    {slaveId : UInt8} {start count : Word} (some_words : 0 < count.toNat)
    (few_words : count.toNat ≤ 125) {bus : Exchange}
    (carries : Carries client station (buildReadFrame slaveId table.function start count) bus)
    {frame : Bytes} (taken : client.candidate count.toNat bus = some frame) :
    frame = station.reply table.function table start count.toNat := by
  have acceptable := ModbusClient.candidate_acceptable taken
  have long := acceptable.long
  have delivered : client.delivered bus = some frame := by
    rw [ModbusClient.candidate] at taken
    split at taken
    next heard =>
        split_ifs at taken
        exact heard.trans taken
    next => contradiction
  rcases carries frame delivered with rfl | ⟨reply, served, arrives⟩
  · simp at long
  · obtain ⟨error, same, -, front⟩ := id arrives
    have bound := front.length_le.trans_eq (corrupt_length same)
    rw [station.serve_buildReadFrame] at served
    split_ifs at served with other count_bad range_bad
    · omega
    · obtain rfl := Option.some.inj served
      rw [Station.exception_length] at bound
      omega
    · obtain rfl := Option.some.inj served
      have whole : (station.reply table.function table start count.toNat).length ≤ frame.length :=
        (station.reply_length _ table start count.toNat).trans_le long
      exact eq_of_arrives_valid (by simp) arrives whole acceptable.crc

/-! ## Reads -/

/-- A call with the request. The caller's array holds something before. -/
def ModbusClient.stores (client : ModbusClient) (stale : Nat → Word) (request : ReadRequest)
    (bus : Nat → Exchange) : Option (Nat → Word) :=
  let result := client.readWithRetry request.slaveId request.function request.startAddr
    request.count stale maxReadAttempts bus
  if result.success then some result.data else none

/-- The first attempt whose reply the client takes. -/
def ModbusClient.firstTaken (client : ModbusClient) (request : ReadRequest)
    (bus : Nat → Exchange) : Option Nat :=
  (List.range (attemptLimit maxReadAttempts)).find? fun k =>
    (client.candidate request.count.toNat (bus k)).isSome

/-- The registers of a request. -/
def Station.asked (station : Station) (request : ReadRequest) (i : Nat) : Word :=
  (Table.ofCode request.function).elim 0 fun table =>
    station.registers table (request.startAddr + .ofNat 16 i)

theorem ReadRequest.WithinLimits.table {request : ReadRequest} (within : request.WithinLimits) :
    ∃ table : Table, request.function = table.function ∧
      Table.ofCode request.function = some table := by
  rcases within.function with code | code
  · exact ⟨.holding, code, by rw [code]; rfl⟩
  · exact ⟨.input, code, by rw [code]; rfl⟩

theorem Station.word_reply (station : Station) (code : UInt8) (table : Table) (start : Word)
    {count i : Nat} (inside : i < count) :
    word ((station.reply code table start count).getD (3 + 2 * i) 0)
        ((station.reply code table start count).getD (4 + 2 * i) 0) =
      station.registers table (start + .ofNat 16 i) := by
  have decoded := station.decodeWords_reply code table start inside fun _ => 0
  rw [decodeWords, if_pos inside] at decoded
  rw [Nat.mul_comm 2 i, show 4 + i * 2 = 3 + i * 2 + 1 by omega, decoded]

/-- A read stores the registers as they were when the first reply was taken. -/
theorem ModbusClient.stores_eq {client : ModbusClient} (initialized : client.initialized = true)
    {request : ReadRequest} (within : request.WithinLimits) {stations : Nat → Station}
    {bus : Nat → Exchange} (carries : ∀ k, Carries client (stations k) request.frame (bus k))
    (stale : Nat → Word) :
    match client.firstTaken request bus with
    | none => client.stores stale request bus = none
    | some k => ∃ words, client.stores stale request bus = some words ∧
        ∀ i < request.count.toNat, words i = (stations k).asked request i := by
  obtain ⟨table, code, known⟩ := within.table
  have allowed : client.initialized = true ∧ 0 < request.count.toNat ∧
      request.count.toNat ≤ 125 := ⟨initialized, within.some_words, within.few_words⟩
  have limit : client.attemptsAllowed request.count maxReadAttempts =
      attemptLimit maxReadAttempts := if_pos allowed
  have read := readWithRetry_of_allowed allowed request.slaveId table request.startAddr stale
    maxReadAttempts bus
  rw [limit, ← code] at read
  cases first : client.firstTaken request bus with
  | none =>
      have nothing : ∀ k < attemptLimit maxReadAttempts,
          client.candidate request.count.toNat (bus k) = none := by
        intro k few
        simpa using List.find?_eq_none.mp first k (List.mem_range.mpr few)
      have failed := (attempts_exhausted initialized within.few_words request.slaveId table
        request.startAddr stale bus nothing).1
      rw [← code] at failed
      dsimp only [stores]
      rw [read, failed]
      rfl
  | some k =>
      obtain ⟨some_frame, few, before⟩ := List.find?_range_eq_some.mp first
      obtain ⟨frame, taken⟩ := Option.isSome_iff_exists.mp some_frame
      have earlier : ∀ j < k, client.candidate request.count.toNat (bus j) = none :=
        fun j lower => by simpa using before j lower
      obtain ⟨success, -, words, -⟩ := attempts_taken initialized within.few_words
        request.slaveId table request.startAddr stale bus (List.mem_range.mp few) earlier taken
      rw [← code] at success words
      have carried := carries k
      rw [ReadRequest.frame, code] at carried
      have reply := candidate_genuine within.some_words within.few_words carried taken
      refine ⟨_, (congrArg (fun result : ReadResult =>
        if result.success then some result.data else none) read).trans (if_pos success), ?_⟩
      intro i inside
      rw [words i inside, reply, Station.asked, known]
      exact (stations k).word_reply table.function table request.startAddr inside

/-! ## Phases -/

/-- What the reads of a phase meet on the line, attempt by attempt: an exchange, and the station as
it is then. -/
structure Conversation where
  exchanges : Nat → Nat → Exchange
  stations : Nat → Nat → Station

/-- The reads of a phase go through the client, whatever its frame log holds at each. -/
def PhaseInput.Over (client : ModbusClient) (line : Conversation) (input : PhaseInput) : Prop :=
  ∀ i request, ∃ log stale, input.reads i request =
    ModbusClient.stores { client with frameLog := log } stale request (line.exchanges i)

namespace Conversation

variable (single : SinglePrecision) (client : ModbusClient) (line : Conversation)

/-- Every exchange carries what the station answers to its request. -/
def Honest (attempts : List (Entry × Nat)) : Prop :=
  ∀ attempt ∈ attempts, ∀ k,
    Carries client (line.stations attempt.2 k) attempt.1.request.frame
      (line.exchanges attempt.2 k)

/-- The points of an entry for the registers of the station, if the client takes a reply. -/
def measured (attempt : Entry × Nat) : Option (List TelemetryPoint) :=
  (client.firstTaken attempt.1.request (line.exchanges attempt.2)).map fun k =>
    attempt.1.points single ((line.stations attempt.2 k).asked attempt.1.request)

/-- The points of a phase: all that were measured, if any entry was. -/
def outcome (attempts : List (Entry × Nat)) : Option (List TelemetryPoint) :=
  let heard := attempts.filterMap (line.measured single client)
  if heard = [] then none else some heard.flatten

end Conversation

namespace GenericModbusDevice

variable {device : GenericModbusDevice}

theorem within_limits (wellFormed : WellFormed device) {entry : Entry}
    (listed : entry ∈ allEntries device) : entry.request.WithinLimits := by
  rcases List.mem_append.mp listed with flat | grouped
  · obtain ⟨reg, member, rfl⟩ := List.mem_map.mp flat
    refine ⟨(wellFormed.registers reg member).function, ?_, ?_⟩ <;>
      rcases wordSize_eq reg.field.type with size | size <;> simp [registerEntry, size]
  · obtain ⟨grp, member, rfl⟩ := List.mem_map.mp grouped
    have accepted := wellFormed.groups grp member
    have count : (grp.count.toBitVec.setWidth 16).toNat = grp.count.toNat := by simp
    exact ⟨accepted.function, count ▸ accepted.some_words, count ▸ accepted.few_words⟩

/-- No more words matter than the entry asks for. -/
theorem points_congr (wellFormed : WellFormed device) {entry : Entry}
    (listed : entry ∈ allEntries device) (single : SinglePrecision) {words other : Nat → Word}
    (same : ∀ i < entry.request.count.toNat, words i = other i) :
    entry.points single words = entry.points single other := by
  refine List.flatMap_congr fun field member => ?_
  obtain ⟨sound, inside⟩ := fields_inside wellFormed listed field member
  exact fieldPoints_congr single sound fun i small => same _ (by omega)

variable {single : SinglePrecision} {client : ModbusClient} {line : Conversation} {budget : UInt32}
  {storagePhase : Bool} {input : PhaseInput}

/-- What an attempt adds to a phase is what was measured. -/
theorem reads_measured (wellFormed : WellFormed device)
    (initialized : client.initialized = true) (carried : input.Over client line) {entry : Entry}
    (listed : entry ∈ allEntries device) {i : Nat}
    (carries : ∀ k, Carries client (line.stations i k) entry.request.frame (line.exchanges i k)) :
    (input.reads i entry.request).map (entry.points single) =
      line.measured single client (entry, i) := by
  obtain ⟨log, stale, stored⟩ := carried i entry.request
  have read := @ModbusClient.stores_eq { client with frameLog := log } initialized entry.request
    (within_limits wellFormed listed) (line.stations i) (line.exchanges i) carries stale
  change match client.firstTaken entry.request (line.exchanges i) with
    | none => _
    | some k => _ at read
  rw [Conversation.measured, stored]
  cases first : client.firstTaken entry.request (line.exchanges i) with
  | none =>
      rw [first] at read
      exact congrArg _ read
  | some k =>
      rw [first] at read
      obtain ⟨words, found, asked⟩ := read
      rw [found, Option.map_some, Option.map_some]
      exact congrArg some (points_congr wellFormed listed single asked)

theorem flatten_filterMap {α β : Type*} (found : α → Option (List β)) (values : List α) :
    (values.filterMap found).flatten = values.flatMap fun value => (found value).getD [] := by
  induction values with
  | nil => rfl
  | cons value values induction =>
      rw [List.flatMap_cons, ← induction]
      cases there : found value with
      | none => rw [List.filterMap_cons_none there, Option.getD_none, List.nil_append]
      | some points =>
          rw [List.filterMap_cons_some there, List.flatten_cons, Option.getD_some]

/-- A phase comes to what was measured over the line. -/
theorem readPhase_measures (wellFormed : WellFormed device)
    (initialized : client.initialized = true) (carried : input.Over client line)
    (honest : line.Honest client (attempts budget storagePhase input device)) :
    (readPhase single device budget storagePhase input).bind Reading.outcome =
      line.outcome single client (attempts budget storagePhase input device) := by
  obtain ⟨reading, found, -, points, succeeded⟩ :=
    readPhase_eq single budget storagePhase input wellFormed
  have measured : ∀ attempt ∈ attempts budget storagePhase input device,
      (input.reads attempt.2 attempt.1.request).map (attempt.1.points single) =
        line.measured single client attempt := by
    intro attempt listed
    have indexed := (List.takeWhile_prefix _).subset listed
    have member := List.fst_mem_of_mem_zipIdx indexed
    exact reads_measured wellFormed initialized carried (List.mem_filter.mp member).1
      (honest attempt listed)
  have heard : reading.points = ((attempts budget storagePhase input device).filterMap
      (line.measured single client)).flatten := by
    rw [points, flatten_filterMap]
    refine List.flatMap_congr fun attempt listed => ?_
    rw [← measured attempt listed, pointsOf]
    cases input.reads attempt.2 attempt.1.request <;> rfl
  have nothing : (attempts budget storagePhase input device).filterMap
      (line.measured single client) = [] ↔ reading.succeeded ≠ true := by
    rw [List.filterMap_eq_nil_iff, ne_eq, succeeded, not_exists]
    refine forall_congr' fun attempt => ?_
    rw [not_and]
    refine forall_congr' fun listed => ?_
    rw [← measured attempt listed]
    simp
  rw [found, Option.bind_some, Reading.outcome, Conversation.outcome, heard]
  by_cases read : reading.succeeded = true
  · rw [if_pos read, if_neg fun none_heard => nothing.mp none_heard read]
  · rw [if_neg read, if_pos (nothing.mpr read)]

/-! ## Polls -/

/-- No point that was measured has an empty value. -/
theorem outcome_shown (shown : ∀ value, single.text value 2 ≠ [])
    {found : List (Entry × Nat)} {points : List TelemetryPoint}
    (measured : line.outcome single client found = some points) :
    ∀ point ∈ points, point.value ≠ [] := by
  rw [Conversation.outcome] at measured
  split_ifs at measured
  obtain rfl := Option.some.inj measured
  intro point listed
  rw [flatten_filterMap] at listed
  obtain ⟨attempt, -, published⟩ := List.mem_flatMap.mp listed
  rw [Conversation.measured] at published
  cases first : client.firstTaken attempt.1.request (line.exchanges attempt.2) with
  | none => simp [first] at published
  | some k =>
      rw [first] at published
      exact attempt.1.points_shown shown _ point published

end GenericModbusDevice

namespace Poller

variable (lib : ArduinoJson) {here : Circumstances}

/-- The points of the storage registers, if they are enabled and were read. -/
def storagePoints (here : Circumstances) : List TelemetryPoint :=
  if here.config.getBool (ascii "read_storage_regs") false then here.storage.getD [] else []

/-- The points of both phases are handed over after a basic read that succeeds. -/
theorem readAndPublishTelemetry_hands {poller : Poller} (inverter : poller.inverter.isSome = true)
    (connected : ∀ i, (here.moments i).connected = true) {points : List TelemetryPoint}
    (basic : here.basic = some points) (shown : ∀ point ∈ points, point.value ≠ [])
    (storageShown : ∀ point ∈ storagePoints here, point.value ≠ []) (trace : Trace) :
    ∃ after, readAndPublishTelemetry lib here poller trace = (true, poller, after) ∧
      telemetry after = telemetry trace ++ (points ++ storagePoints here) := by
  obtain ⟨device, there⟩ := Option.isSome_iff_exists.mp inverter
  cases enabled : here.config.getBool (ascii "read_storage_regs") false with
  | true =>
      rw [storagePoints, enabled, if_pos rfl] at storageShown ⊢
      exact readAndPublishTelemetry_publishes lib there connected enabled basic shown storageShown
        trace
  | false =>
      rw [readAndPublishTelemetry, there, basic, storagePoints, enabled]
      refine ⟨_, rfl, ?_⟩
      rw [if_neg Bool.false_ne_true, if_neg Bool.false_ne_true, List.append_nil]
      exact telemetry_publishTelemetryPoints lib connected shown trace

/-- What a poll hands over and counts, in every case. -/
theorem poll_hands {poller : Poller} (initialized : poller.initialized = true)
    (inverter : poller.inverter.isSome = true) (connected : ∀ i, (here.moments i).connected = true)
    (shown : ∀ point ∈ here.basic.getD [], point.value ≠ [])
    (storageShown : ∀ point ∈ storagePoints here, point.value ≠ []) :
    let works := here.checked.isMAX485Connected = true ∧ here.tested.testConnection = true ∧
      here.basic.isSome = true
    (works → telemetry (poll lib here poller).2 = here.basic.getD [] ++ storagePoints here ∧
        (poll lib here poller).1.successfulPolls = poller.successfulPolls + 1) ∧
      (¬ works → telemetry (poll lib here poller).2 = [] ∧
        (poll lib here poller).1.successfulPolls = poller.successfulPolls) := by
  constructor
  · rintro ⟨checked, tested, some_points⟩
    obtain ⟨points, basic⟩ := Option.isSome_iff_exists.mp some_points
    rw [basic, Option.getD_some] at shown ⊢
    obtain ⟨after, found, published⟩ := readAndPublishTelemetry_hands lib
      (show ({ poller with lastPollTime := here.now } : Poller).inverter.isSome = true
        from inverter) connected basic shown storageShown
      (publishHardwareStatus lib here (ascii "MAX485") (ascii "connected")
        (ascii "MAX485 module detected") [])
    rw [poll, if_neg (by simp [initialized])]
    dsimp only
    rw [if_neg (by simp [checked]), if_neg (by simp [tested]), found]
    dsimp only
    rw [if_pos rfl]
    refine ⟨(updateAvailability_counts ..).2.trans ?_, (updateAvailability_counts ..).1⟩
    simpa using published
  · intro fails
    refine ⟨?_, poll_fails lib poller ?_⟩
    · rw [poll, if_neg (by simp [initialized])]
      dsimp only
      split_ifs with checked tested success
      · exact (updateAvailability_counts ..).2.trans (by simp)
      · exact (updateAvailability_counts ..).2.trans (by simp)
      · have basic : here.basic ≠ none := fun none_read =>
          absurd success (by simp [(readAndPublishTelemetry_fails lib none_read _ _).1])
        exact absurd ⟨by simpa using checked, by simpa using tested,
          Option.isSome_iff_ne_none.mpr basic⟩ fails
      · refine (updateAvailability_counts ..).2.trans ?_
        rw [telemetry_publishHardwareStatus, telemetry_publishPollStatus]
        obtain ⟨device, there⟩ := Option.isSome_iff_exists.mp inverter
        have basic : here.basic = none := by
          by_contra some_points
          exact fails ⟨by simpa using checked, by simpa using tested,
            Option.isSome_iff_ne_none.mpr some_points⟩
        rw [readAndPublishTelemetry]
        simp [there, basic]
    · by_contra works
      simp only [not_or, Bool.not_eq_false] at works
      exact fails ⟨works.1, works.2.1, Option.isSome_iff_ne_none.mpr works.2.2⟩

end Poller

/-- A poll whose reads go over two lines, one for each phase, while MQTT is connected. -/
structure Circumstances.OverLines (lib : ArduinoJson) (single : SinglePrecision)
    (client : ModbusClient) (device : GenericModbusDevice) (basicInput storageInput : PhaseInput)
    (basicLine storageLine : Conversation) (here : Circumstances) : Prop where
  connected : ∀ i, (here.moments i).connected = true
  basicOver : basicInput.Over client basicLine
  basicHonest : basicLine.Honest client
    (GenericModbusDevice.attempts (pollBudgetMs lib here.config) false basicInput device)
  basic : here.basic =
    (readBasic single device basicInput lib here.config).bind Reading.outcome
  storageOver : storageInput.Over client storageLine
  storageHonest : storageLine.Honest client
    (GenericModbusDevice.attempts (pollBudgetMs lib here.config) true storageInput device)
  storage : here.storage =
    (readStorage single device storageInput lib here.config).bind Reading.outcome

/-- Over a line that loses, cuts short and damages replies, a poll hands over the points of every
entry that it attempts and that gets an answer, as the registers were when it was answered. It hands
over nothing else, and nothing at all if no basic entry gets an answer. -/
theorem poll_over_the_wire {lib : ArduinoJson} {single : SinglePrecision}
    (shown : ∀ value, single.text value 2 ≠ []) {client : ModbusClient}
    (ready : client.initialized = true) {device : GenericModbusDevice}
    (constructed : Constructed lib device) (begun : device.initialized = true)
    {basicInput storageInput : PhaseInput} {basicLine storageLine : Conversation}
    {here : Circumstances}
    (carried :
      here.OverLines lib single client device basicInput storageInput basicLine storageLine)
    {poller : Poller} (initialized : poller.initialized = true)
    (inverter : poller.inverter.isSome = true) :
    let budget := pollBudgetMs lib here.config
    let basic := (GenericModbusDevice.attempts budget false basicInput device).filterMap
      (basicLine.measured single client)
    let storage := if here.config.getBool (ascii "read_storage_regs") false then
      (GenericModbusDevice.attempts budget true storageInput device).filterMap
        (storageLine.measured single client)
      else []
    let polled := poller.poll lib here
    let works := here.checked.isMAX485Connected = true ∧ here.tested.testConnection = true ∧
      basic ≠ []
    (works → telemetry polled.2 = basic.flatten ++ storage.flatten ∧
        polled.1.successfulPolls = poller.successfulPolls + 1) ∧
      (¬ works → telemetry polled.2 = [] ∧
        polled.1.successfulPolls = poller.successfulPolls) := by
  intro budget basic storage polled works
  have wellFormed := constructed.wellFormed
  have basicRead : here.basic = basicLine.outcome single client
      (GenericModbusDevice.attempts budget false basicInput device) := by
    rw [carried.basic, readBasic_begun device begun]
    exact readPhase_measures wellFormed ready carried.basicOver carried.basicHonest
  have storageRead : here.storage = storageLine.outcome single client
      (GenericModbusDevice.attempts budget true storageInput device) := by
    rw [carried.storage, readStorage_begun device begun]
    exact readPhase_measures wellFormed ready carried.storageOver carried.storageHonest
  have basicPoints : here.basic.isSome = true ↔ basic ≠ [] := by
    rw [basicRead, Conversation.outcome]
    by_cases none_heard : basic = []
    · exact (if_pos none_heard).symm ▸ by simp [none_heard]
    · exact (if_neg none_heard).symm ▸ by simp [none_heard]
  have found : ∀ {line : Conversation} {tried : List (Entry × Nat)},
      (line.outcome single client tried).getD [] =
        (tried.filterMap (line.measured single client)).flatten := by
    intro line tried
    rw [Conversation.outcome]
    by_cases none_heard : tried.filterMap (line.measured single client) = []
    · rw [if_pos none_heard, none_heard]
      rfl
    · rw [if_neg none_heard, Option.getD_some]
  have storagePoints : Poller.storagePoints here = storage.flatten := by
    rw [Poller.storagePoints, storageRead, found]
    cases enabled : here.config.getBool (ascii "read_storage_regs") false with
    | true => simp only [storage, enabled, if_true]
    | false => simp only [storage, enabled, Bool.false_eq_true, if_false, List.flatten_nil]
  have outcomes : ∀ {line : Conversation} {tried : List (Entry × Nat)},
      ∀ point ∈ (line.outcome single client tried).getD [], point.value ≠ [] := by
    intro line tried point listed
    cases there : line.outcome single client tried with
    | none => simp [there] at listed
    | some points => exact outcome_shown shown there point (by simpa [there] using listed)
  have hands := Poller.poll_hands lib initialized inverter carried.connected
    (basicRead ▸ outcomes) (by
      rw [Poller.storagePoints, storageRead]
      split_ifs
      · exact outcomes
      · simp)
  rw [storagePoints, basicPoints] at hands
  rw [basicRead, found] at hands
  exact hands

/-! ## A damaged reply -/

/-- Register 16 of this station holds 16. -/
def echoStation : Station := ⟨1, fun _ address => address⟩

/-- The reply of that station, and a bit that is flipped in the register. -/
def echoReply : Bytes := echoStation.reply 4 .input 16 1

/-- The first reply is damaged, and the second is not. -/
def damagedLine : Conversation where
  exchanges _ k :=
    .prompt (corrupt echoReply (if k = 0 then [0, 0, 0, 0, 1, 0, 0] else [0, 0, 0, 0, 0, 0, 0]))
  stations _ _ := echoStation

/-- A client that waits for a second. -/
def patientClient : ModbusClient := ⟨true, 1000, []⟩

theorem carries_prompt {station : Station} {request reply error : Bytes}
    (served : station.serve request = some reply) (same : error.length = reply.length)
    (pattern : Odd (flips error) ∨ Burst 16 error) (few : reply.length ≤ maxResponse) :
    Carries patientClient station request (.prompt (corrupt reply error)) := by
  intro received delivered
  have intact : Intact patientClient.responseTimeout (.prompt (corrupt reply error))
      (corrupt reply error) := Exchange.prompt_intact (by decide) _
  rw [ModbusClient.delivered_of_intact intact ((corrupt_length same).trans_le few)] at delivered
  obtain rfl := Option.some.inj delivered
  exact .inr ⟨reply, served, error, same, pattern, List.prefix_refl _⟩

theorem damagedLine_carries (i k : Nat) :
    Carries patientClient (damagedLine.stations i k) (ReadRequest.frame ⟨1, 4, 16, 1⟩)
      (damagedLine.exchanges i k) := by
  have served : echoStation.serve (ReadRequest.frame ⟨1, 4, 16, 1⟩) = some echoReply := by
    decide +kernel
  have long : echoReply.length = 7 := Station.reply_length ..
  have few : echoReply.length ≤ maxResponse := long.trans_le (by decide)
  by_cases first : k = 0
  · subst first
    have odd : Odd (flips [0, 0, 0, 0, 1, 0, 0]) := ⟨0, by decide⟩
    exact carries_prompt served long.symm (.inl odd) few
  · have clean : damagedLine.exchanges i k =
        .prompt (corrupt echoReply [0, 0, 0, 0, 0, 0, 0]) :=
      congrArg (fun error => Exchange.prompt (corrupt echoReply error)) (if_neg first)
    rw [clean]
    exact carries_prompt served long.symm (.inr (burst_of_zero (by simp))) few

/-- Both phases meet that line. -/
def damagedInput : PhaseInput where
  startMs := 0
  nowMs _ := 0
  reads i request := patientClient.stores (fun _ => 0) request (damagedLine.exchanges i)

/-- A poll over that line. -/
def damagedPoll : Circumstances where
  config := storageConfig
  identity := ⟨[], []⟩
  now := 0
  checked := ⟨true, 4⟩
  tested := ⟨true, 4⟩
  basic := (readBasic wholeNumbers powerLoaded damagedInput powerJson storageConfig).bind
    Reading.outcome
  storage := (readStorage wholeNumbers powerLoaded damagedInput powerJson storageConfig).bind
    Reading.outcome
  moments _ := ⟨true, true, 0, 0⟩

theorem damagedLine_honest (storagePhase : Bool) :
    damagedLine.Honest patientClient
      (GenericModbusDevice.attempts (pollBudgetMs powerJson storageConfig) storagePhase
        damagedInput powerLoaded) := by
  have only : ∀ request ∈ (GenericModbusDevice.attempts (pollBudgetMs powerJson storageConfig)
      storagePhase damagedInput powerLoaded).map (fun attempt => attempt.1.request),
      request = ⟨1, 4, 16, 1⟩ := by
    cases storagePhase <;> decide +kernel
  intro attempt listed k
  rw [only _ (List.mem_map_of_mem listed)]
  exact damagedLine_carries attempt.2 k

/-- The value of a register that is read with the second attempt. -/
theorem poll_over_the_wire_damaged :
    (telemetry (registerPoller.poll powerJson damagedPoll).2).map TelemetryPoint.value =
      [ascii "16.00"] := by
  have constructed : Constructed powerJson powerLoaded :=
    .begin (powerFile true) true (.create .initial (ascii "/devices/p.json"))
  have lines : damagedPoll.OverLines powerJson wholeNumbers patientClient powerLoaded damagedInput
      damagedInput damagedLine damagedLine :=
    ⟨fun _ => rfl, fun _ _ => ⟨[], fun _ => 0, rfl⟩, damagedLine_honest false,
      by simp only [damagedPoll], fun _ _ => ⟨[], fun _ => 0, rfl⟩, damagedLine_honest true,
      by simp only [damagedPoll]⟩
  have polled := poll_over_the_wire wholeNumbers_shown
    (show patientClient.initialized = true from rfl) constructed (by decide +kernel) lines
    (show registerPoller.initialized = true from rfl) rfl
  have heard : (GenericModbusDevice.attempts (pollBudgetMs powerJson storageConfig) false
      damagedInput powerLoaded).filterMap (damagedLine.measured wholeNumbers patientClient) ≠
      [] := by
    rw [ne_eq, ← List.length_eq_zero_iff]
    decide +kernel
  rw [(polled.1 ⟨rfl, rfl, heard⟩).1]
  decide +kernel

end ModbusBridge
