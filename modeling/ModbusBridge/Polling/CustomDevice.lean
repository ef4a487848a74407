import ModbusBridge.Devices.Phases
import ModbusBridge.Polling.Poller

/-!
# Polls of custom devices

What a poll publishes of a device that was loaded from an accepted document, if every read succeeds
in time.
-/

namespace ModbusBridge

/-! ## Phases that read everything -/

/-- Every read of a phase stores these words, within the budget. -/
structure PhaseInput.Answered (input : PhaseInput) (budget : UInt32)
    (words : Nat → ReadRequest → Nat → Word) : Prop where
  inTime : ∀ i, input.nowMs i - input.startMs ≤ budget
  stored : ∀ i request, input.reads i request = some (words i request)

namespace GenericModbusDevice

variable (single : SinglePrecision)

/-- The entries of a phase with the words of their reads. -/
def answers (words : Nat → ReadRequest → Nat → Word) (visited : Nat) (own : List Entry) :
    List (Entry × (Nat → Word)) :=
  (own.zipIdx visited).map fun turn => (turn.1, words turn.2 turn.1.request)

theorem answers_append (words : Nat → ReadRequest → Nat → Word) (visited : Nat)
    (early late : List Entry) :
    answers words visited (early ++ late) =
      answers words visited early ++ answers words (visited + early.length) late := by
  simp [answers, List.zipIdx_append]

/-- Part of a phase that reads all its entries. -/
structure Phase.ReadsAll (storagePhase : Bool) (words : Nat → ReadRequest → Nat → Word)
    (entries : List Entry) (before after : Phase) : Prop where
  tripped : after.budgetTripped = before.budgetTripped
  visited : after.visited = before.visited + (ownEntries storagePhase entries).length
  succeeded : after.succeeded = before.succeeded + (ownEntries storagePhase entries).length
  out : after.out = before.out ++
    (answers words before.visited (ownEntries storagePhase entries)).flatMap fun read =>
      read.1.points single read.2

theorem Phase.ReadsAll.trans {storagePhase : Bool} {words : Nat → ReadRequest → Nat → Word}
    {early late : List Entry} {before between after : Phase}
    (first : Phase.ReadsAll single storagePhase words early before between)
    (second : Phase.ReadsAll single storagePhase words late between after) :
    Phase.ReadsAll single storagePhase words (early ++ late) before after where
  tripped := second.tripped.trans first.tripped
  visited := by
    rw [second.visited, first.visited, ownEntries_append, List.length_append, Nat.add_assoc]
  succeeded := by
    rw [second.succeeded, first.succeeded, ownEntries_append, List.length_append, Nat.add_assoc]
  out := by
    rw [second.out, first.out, first.visited, ownEntries_append, answers_append,
      List.flatMap_append, List.append_assoc]

/-- Within the budget, an entry of the phase is read, and any other is passed over. -/
theorem Phase.Turn.readsAll {single : SinglePrecision} {budget : UInt32} {storagePhase : Bool}
    {input : PhaseInput} {words : Nat → ReadRequest → Nat → Word}
    (answered : input.Answered budget words) {entry : Entry} {before after : Phase}
    (turn : Phase.Turn single budget storagePhase input entry before after)
    (untripped : before.budgetTripped = false) :
    Phase.ReadsAll single storagePhase words [entry] before after := by
  cases turn with
  | other apart same =>
      have own : ownEntries storagePhase [entry] = [] := by simp [ownEntries, apart]
      subst same
      exact ⟨rfl, by rw [own]; rfl, by rw [own]; rfl, by rw [own]; exact (List.append_nil _).symm⟩
  | skipped same late requests out =>
      have inTime := answered.inTime before.visited
      rw [Phase.budgetExpired, untripped, Bool.false_or, decide_eq_true_eq] at late
      exact absurd late (UInt32.not_lt.mpr inTime)
  | read same inTime read made requests out visited succeeded tripped =>
      have own : ownEntries storagePhase [entry] = [entry] := by simp [ownEntries, same]
      subst made
      refine ⟨tripped, by rw [own]; exact visited, ?_, ?_⟩
      · rw [own, succeeded, Entry.read, answered.stored]
        rfl
      · rw [own, out, Entry.read, answered.stored]
        simp [answers]

/-- A phase that reads everything succeeds if there is something to read. -/
theorem readPhase_reads_all (device : GenericModbusDevice) {budget : UInt32} (storagePhase : Bool)
    {input : PhaseInput} {words : Nat → ReadRequest → Nat → Word}
    (answered : input.Answered budget words) {declarations : Declarations}
    (sound : declarations.Sound) :
    let own := ownEntries storagePhase (declarations.entries device.slaveAddr)
    ∃ requests,
      readPhase single (withDeclarations device declarations) budget storagePhase input =
        some ⟨own.length > 0, requests, (answers words 0 own).flatMap fun read =>
          read.1.points single read.2⟩ := by
  obtain ⟨phase, found, advance⟩ := readPhase_follows single device budget storagePhase input
    sound
    (fun entries before after => before.budgetTripped = false →
      Phase.ReadsAll single storagePhase words entries before after)
    (fun phase _ => ⟨rfl, rfl, rfl, (List.append_nil _).symm⟩)
    (fun early late untripped =>
      (early untripped).trans single (late ((early untripped).tripped.trans untripped)))
    (fun entry _ before after turn => turn.readsAll answered)
  have all := advance rfl
  refine ⟨phase.requests, found.trans ?_⟩
  have count : phase.flatOk + phase.groupOk =
      0 + (ownEntries storagePhase (declarations.entries device.slaveAddr)).length :=
    all.succeeded
  rw [all.out, count, Nat.zero_add]
  rfl

theorem readBasic_begun {single : SinglePrecision} (device : GenericModbusDevice)
    (begins : device.initialized = true) (input : PhaseInput) (lib : ArduinoJson)
    (config : Config) :
    readBasic single device input lib config =
      readPhase single device (pollBudgetMs lib config) false input :=
  if_neg (by simp [begins])

theorem readStorage_begun {single : SinglePrecision} (device : GenericModbusDevice)
    (begins : device.initialized = true) (input : PhaseInput) (lib : ArduinoJson)
    (config : Config) :
    readStorage single device input lib config =
      readPhase single device (pollBudgetMs lib config) true input :=
  if_neg (by simp [begins])

/-- No point has an empty value. -/
theorem Entry.points_shown {single : SinglePrecision}
    (shown : ∀ value, single.text value 2 ≠ []) (entry : Entry) (words : Nat → Word) :
    ∀ point ∈ entry.points single words, point.value ≠ [] := by
  intro point listed
  obtain ⟨field, -, published⟩ := List.mem_flatMap.mp listed
  rw [fieldPoints] at published
  split_ifs at published
  · exact absurd published List.not_mem_nil
  · obtain rfl := List.mem_singleton.mp published
    exact shown _
  · obtain ⟨bit, -, rfl⟩ := List.mem_map.mp published
    simp [emitBit, decimal]

/-! ## Loading -/

/-- A device that begins with an accepted file holds what the file declares. -/
theorem begin_accepted {lib : ArduinoJson} {content : Bytes} {declarations : Declarations}
    (accepted : validateJSON lib content = .ok declarations) {device loaded : GenericModbusDevice}
    (idle : device.initialized = false) {fs : LittleFS} {opens : Bool}
    (stored : fs.files device.jsonFilePath = some content)
    (begun : device.begin lib fs opens = some loaded) :
    ∃ named : GenericModbusDevice, named.slaveAddr = device.slaveAddr ∧
      named.initialized = true ∧ loaded = withDeclarations named declarations := by
  rw [begin] at begun
  rw [if_neg (by simp [idle])] at begun
  obtain ⟨filled, load, rfl⟩ := Option.map_eq_some_iff.mp begun
  rw [validateJSON] at accepted
  rw [loadJSON] at load
  simp only [stored] at load
  split_ifs at load accepted
  cases parsed : lib.deserializeJson content with
  | error error => rw [parsed] at accepted; contradiction
  | ok doc =>
      rw [parsed] at load accepted
      obtain ⟨found, sound, accepted⟩ := Fallible.bind_eq_ok.mp accepted
      dsimp only at load
      rw [sound] at load
      dsimp only at load
      split_ifs at load accepted
      obtain rfl := Except.ok.inj accepted
      obtain rfl := Option.some.inj load
      exact ⟨{ device with
        deviceId := (doc.member (ascii "device_id")).stringOr (ascii "unknown")
        deviceName := (doc.member (ascii "name")).stringOr (ascii "Unknown Device")
        initialized := true }, rfl, rfl, rfl⟩

end GenericModbusDevice

/-! ## Telemetry -/

/-- The points that were handed to the broker. -/
def telemetry (trace : Trace) : List TelemetryPoint :=
  trace.filterMap fun call =>
    match call.1 with
    | .telemetry point => if call.2.message.isSome then some point else none
    | _ => none

@[simp] theorem telemetry_nil : telemetry [] = [] := rfl

@[simp] theorem telemetry_append (trace rest : Trace) :
    telemetry (trace ++ rest) = telemetry trace ++ telemetry rest :=
  List.filterMap_append

namespace Poller

variable (lib : ArduinoJson) (here : Circumstances)

@[simp] theorem telemetry_publishPollStatus (poller : Poller) (success : Bool) (error : Bytes)
    (trace : Trace) :
    telemetry (publishPollStatus lib here poller success error trace) = telemetry trace := by
  simp [publishPollStatus, ask, telemetry]

@[simp] theorem telemetry_publishHardwareStatus (component status message : Bytes)
    (trace : Trace) :
    telemetry (publishHardwareStatus lib here component status message trace) =
      telemetry trace := by
  simp [publishHardwareStatus, ask, telemetry]

theorem updateAvailability_counts (poller : Poller) (pollSucceeded : Bool) (trace : Trace) :
    (updateAvailability lib here poller pollSucceeded trace).1.successfulPolls =
        poller.successfulPolls ∧
      telemetry (updateAvailability lib here poller pollSucceeded trace).2 = telemetry trace := by
  have asked : ∀ online, telemetry (ask lib here trace (.availability online)) =
      telemetry trace := by
    simp [ask, telemetry]
  rw [updateAvailability]
  dsimp only
  split_ifs <;> exact ⟨rfl, by simp only [asked]⟩

variable {here}

theorem telemetry_ask (connected : ∀ i, (here.moments i).connected = true) (trace : Trace)
    (point : TelemetryPoint) :
    telemetry (ask lib here trace (.telemetry point)) = telemetry trace ++ [point] := by
  simp [ask, telemetry, answer, Publication.deliver, MQTTClient.publishTelemetry,
    MQTTClient.publishGeneric, connected]

/-- While the client is connected, every point with a value is handed to the broker. -/
theorem telemetry_publishTelemetryPoints (connected : ∀ i, (here.moments i).connected = true)
    {points : List TelemetryPoint} (shown : ∀ point ∈ points, point.value ≠ []) (trace : Trace) :
    telemetry (publishTelemetryPoints lib here points trace) = telemetry trace ++ points := by
  have each : ∀ trace : Trace, telemetry (points.foldl (fun trace point =>
      if point.value = [] then trace else ask lib here trace (.telemetry point)) trace) =
        telemetry trace ++ points := by
    induction points with
    | nil => simp
    | cons point points induction =>
        intro trace
        rw [List.foldl_cons, if_neg (shown point List.mem_cons_self),
          induction fun other listed => shown other (List.mem_cons_of_mem _ listed),
          telemetry_ask lib connected, List.append_assoc]
        rfl
  have linked : (answer lib here trace .isConnected).succeeded = true := connected _
  unfold publishTelemetryPoints
  dsimp only
  rw [linked, if_neg (by simp), each]
  simp [ask, telemetry]

theorem readAndPublishTelemetry_publishes {poller : Poller} {device : Device}
    (inverter : poller.inverter = some device)
    (connected : ∀ i, (here.moments i).connected = true)
    (storageEnabled : here.config.getBool (ascii "read_storage_regs") false = true)
    {points : List TelemetryPoint} (basic : here.basic = some points)
    (shown : ∀ point ∈ points, point.value ≠ [])
    (storageShown : ∀ point ∈ here.storage.getD [], point.value ≠ []) (trace : Trace) :
    ∃ after, readAndPublishTelemetry lib here poller trace = (true, poller, after) ∧
      telemetry after = telemetry trace ++ (points ++ here.storage.getD []) := by
  rw [readAndPublishTelemetry]
  rw [inverter, basic, storageEnabled]
  refine ⟨_, rfl, ?_⟩
  rw [if_pos rfl]
  cases storage : here.storage with
  | none =>
      rw [Option.getD_none, List.append_nil]
      exact telemetry_publishTelemetryPoints lib connected shown trace
  | some storagePoints =>
      rw [storage] at storageShown
      dsimp only [Option.getD_some] at storageShown ⊢
      split_ifs with some_points
      · rw [telemetry_publishTelemetryPoints lib connected storageShown,
          telemetry_publishTelemetryPoints lib connected shown, List.append_assoc]
      · rw [telemetry_publishTelemetryPoints lib connected shown, not_not.mp some_points,
          List.append_nil]

/-- A poll that finds its hardware and reads its basic registers is counted, and hands over the
points of both phases. -/
theorem poll_succeeds {poller : Poller} (initialized : poller.initialized = true)
    {device : Device} (inverter : poller.inverter = some device)
    (checked : here.checked.isMAX485Connected = true) (tested : here.tested.testConnection = true)
    (connected : ∀ i, (here.moments i).connected = true)
    (storageEnabled : here.config.getBool (ascii "read_storage_regs") false = true)
    {points : List TelemetryPoint} (basic : here.basic = some points)
    (shown : ∀ point ∈ points, point.value ≠ [])
    (storageShown : ∀ point ∈ here.storage.getD [], point.value ≠ []) :
    (poll lib here poller).1.successfulPolls = poller.successfulPolls + 1 ∧
      telemetry (poll lib here poller).2 = points ++ here.storage.getD [] := by
  obtain ⟨after, found, published⟩ := readAndPublishTelemetry_publishes lib
    (show ({ poller with lastPollTime := here.now } : Poller).inverter = some device from inverter)
    connected storageEnabled basic shown storageShown
    (publishHardwareStatus lib here (ascii "MAX485") (ascii "connected")
      (ascii "MAX485 module detected") [])
  rw [poll]
  rw [if_neg (by simp [initialized])]
  dsimp only
  rw [if_neg (by simp [checked]), if_neg (by simp [tested]), found]
  dsimp only
  rw [if_pos rfl]
  refine ⟨(updateAvailability_counts ..).1, (updateAvailability_counts ..).2.trans ?_⟩
  simpa using published

theorem readAndPublishTelemetry_fails (basic : here.basic = none) (poller : Poller)
    (trace : Trace) :
    (readAndPublishTelemetry lib here poller trace).1 = false ∧
      (readAndPublishTelemetry lib here poller trace).2.1.successfulPolls =
        poller.successfulPolls := by
  rw [readAndPublishTelemetry]
  cases poller.inverter with
  | none => exact ⟨rfl, rfl⟩
  | some device =>
      rw [basic]
      exact ⟨rfl, rfl⟩

/-- A poll that fails is not counted. -/
theorem poll_fails (poller : Poller)
    (fails : here.checked.isMAX485Connected = false ∨ here.tested.testConnection = false ∨
      here.basic = none) :
    (poll lib here poller).1.successfulPolls = poller.successfulPolls := by
  rw [poll]
  dsimp only
  split_ifs with idle checked tested success
  · rfl
  · exact (updateAvailability_counts ..).1
  · exact (updateAvailability_counts ..).1
  all_goals
    have basic : here.basic = none :=
      (fails.resolve_left (by simpa using checked)).resolve_left (by simpa using tested)
    have failed := readAndPublishTelemetry_fails lib basic
  · exact absurd success (by simp [failed])
  · exact (updateAvailability_counts ..).1.trans (failed _ _).2

end Poller

/-! ## Accepted devices -/

/-- The points of a call of `readBasic` or `readStorage` that returns true. -/
def GenericModbusDevice.Reading.outcome (reading : GenericModbusDevice.Reading) :
    Option (List TelemetryPoint) :=
  if reading.succeeded then some reading.points else none

open GenericModbusDevice

/-- A poll of a device in which the storage registers are read too, MQTT is connected, and every
read stores these words in time. -/
structure Circumstances.Prompt (lib : ArduinoJson) (single : SinglePrecision)
    (device : GenericModbusDevice) (basicWords storageWords : Nat → ReadRequest → Nat → Word)
    (here : Circumstances) : Prop where
  storageEnabled : here.config.getBool (ascii "read_storage_regs") false = true
  connected : ∀ i, (here.moments i).connected = true
  basic : ∃ (input : PhaseInput) (reading : Reading),
    input.Answered (pollBudgetMs lib here.config) basicWords ∧
      readBasic single device input lib here.config = some reading ∧ here.basic = reading.outcome
  storage : ∃ (input : PhaseInput) (reading : Reading),
    input.Answered (pollBudgetMs lib here.config) storageWords ∧
      readStorage single device input lib here.config = some reading ∧
      here.storage = reading.outcome

/-- The names that the fields of a document publish with these words, but for the fields that are
suppressed. -/
def unsuppressed (entries : List Entry) (basicWords storageWords : Nat → ReadRequest → Nat → Word) :
    List Bytes :=
  (answers basicWords 0 (ownEntries false entries) ++
    answers storageWords 0 (ownEntries true entries)).flatMap fun read => read.1.emitted read.2

/-- A poll counts, and publishes each of these names once and nothing else. -/
structure Publishes (lib : ArduinoJson) (here : Circumstances) (poller : Poller)
    (expected : List Bytes) : Prop where
  counted : (poller.poll lib here).1.successfulPolls = poller.successfulPolls + 1
  names : (telemetry (poller.poll lib here).2).map TelemetryPoint.name = expected
  once : expected.Nodup

/-- A poll with working hardware finds something to read before the storage registers. -/
structure Readable (declarations : Declarations) (here : Circumstances) : Prop where
  checked : here.checked.isMAX485Connected = true
  tested : here.tested.testConnection = true
  basic : (∃ reg ∈ declarations.registers, reg.isStorage = false) ∨
    ∃ grp ∈ declarations.groups, grp.isStorage = false

theorem ownEntries_ne_nil_iff {declarations : Declarations} {slaveAddr : UInt8} :
    ownEntries false (declarations.entries slaveAddr) ≠ [] ↔
      (∃ reg ∈ declarations.registers, reg.isStorage = false) ∨
        ∃ grp ∈ declarations.groups, grp.isStorage = false := by
  rw [ownEntries, Declarations.entries, List.filter_append, ne_eq, List.append_eq_nil_iff,
    List.filter_eq_nil_iff, List.filter_eq_nil_iff]
  simp only [List.forall_mem_map, registerEntry, groupEntry, decide_eq_true_eq, not_and_or,
    not_forall, not_not, exists_prop]

theorem phaseNames_eq (storagePhase : Bool) (entries : List Entry) :
    phaseNames storagePhase entries =
      (ownEntries storagePhase entries).flatMap Entry.declared := by
  rw [phaseNames, ownEntries]
  induction entries with
  | nil => rfl
  | cons entry entries induction =>
      by_cases own : entry.isStorage = storagePhase
      · simp [own, induction]
      · simp [own, induction]

theorem answers_sublist (words : Nat → ReadRequest → Nat → Word) (visited : Nat)
    (own : List Entry) :
    ((answers words visited own).flatMap fun read => read.1.emitted read.2).Sublist
      (own.flatMap Entry.declared) := by
  induction own generalizing visited with
  | nil => exact List.Sublist.refl _
  | cons entry own induction =>
      exact (entry.emitted_sublist _).append (induction (visited + 1))

theorem unsuppressed_nodup {declarations : Declarations} (sound : declarations.Sound)
    (slaveAddr : UInt8) (basicWords storageWords : Nat → ReadRequest → Nat → Word) :
    (unsuppressed (declarations.entries slaveAddr) basicWords storageWords).Nodup := by
  have names := (answers_sublist basicWords 0
    (ownEntries false (declarations.entries slaveAddr))).append
      (answers_sublist storageWords 0 (ownEntries true (declarations.entries slaveAddr)))
  have declared := (phaseNames_perm (declarations.entries slaveAddr)).trans
    (.of_eq (declarations.declared_entries slaveAddr))
  rw [phaseNames_eq, phaseNames_eq] at declared
  rw [unsuppressed, List.flatMap_append]
  exact names.nodup (declared.nodup_iff.mpr sound.distinct)

theorem points_names {single : SinglePrecision} (reads : List (Entry × (Nat → Word))) :
    (reads.flatMap fun read => read.1.points single read.2).map TelemetryPoint.name =
      reads.flatMap fun read => read.1.emitted read.2 := by
  rw [List.map_flatMap]
  exact List.flatMap_congr fun read _ => read.1.points_names single read.2

theorem points_shown {single : SinglePrecision} (shown : ∀ value, single.text value 2 ≠ [])
    {reads : List (Entry × (Nat → Word))} :
    ∀ point ∈ reads.flatMap fun read => read.1.points single read.2, point.value ≠ [] := by
  intro point listed
  obtain ⟨read, -, published⟩ := List.mem_flatMap.mp listed
  exact read.1.points_shown shown read.2 point published

/-- The outcome of a phase that reads everything. -/
theorem outcome_of_answered {single : SinglePrecision} {named : GenericModbusDevice}
    {budget : UInt32} {storagePhase : Bool} {words : Nat → ReadRequest → Nat → Word}
    {declarations : Declarations} (sound : declarations.Sound) {input : PhaseInput}
    (answered : input.Answered budget words) {reading : Reading}
    (read : readPhase single (withDeclarations named declarations) budget storagePhase input =
      some reading) :
    let own := ownEntries storagePhase (declarations.entries named.slaveAddr)
    reading.outcome = if own = [] then none
      else some ((answers words 0 own).flatMap fun read => read.1.points single read.2) := by
  obtain ⟨requests, found⟩ := readPhase_reads_all single named storagePhase answered sound
  obtain rfl := Option.some.inj (read.symm.trans found)
  rw [Reading.outcome]
  by_cases own : ownEntries storagePhase (declarations.entries named.slaveAddr) = []
  · simp [own]
  · simp [own, List.length_pos_iff]

theorem Circumstances.Prompt.outcomes {lib : ArduinoJson} {single : SinglePrecision}
    {named : GenericModbusDevice} {declarations : Declarations} (sound : declarations.Sound)
    (begins : named.initialized = true)
    {basicWords storageWords : Nat → ReadRequest → Nat → Word} {here : Circumstances}
    (prompt : here.Prompt lib single (withDeclarations named declarations) basicWords
      storageWords) :
    let basicOwn := ownEntries false (declarations.entries named.slaveAddr)
    let storageOwn := ownEntries true (declarations.entries named.slaveAddr)
    (here.basic = if basicOwn = [] then none
      else some ((answers basicWords 0 basicOwn).flatMap fun read =>
        read.1.points single read.2)) ∧
      here.storage = if storageOwn = [] then none
        else some ((answers storageWords 0 storageOwn).flatMap fun read =>
          read.1.points single read.2) := by
  obtain ⟨basicInput, basicReading, basicAnswered, basicRead, basic⟩ := prompt.basic
  obtain ⟨storageInput, storageReading, storageAnswered, storageRead, storage⟩ := prompt.storage
  rw [readBasic_begun (withDeclarations named declarations) begins] at basicRead
  rw [readStorage_begun (withDeclarations named declarations) begins] at storageRead
  exact ⟨basic.trans (outcome_of_answered sound basicAnswered basicRead),
    storage.trans (outcome_of_answered sound storageAnswered storageRead)⟩

theorem not_publishes_of_fails {lib : ArduinoJson} {here : Circumstances} {poller : Poller}
    {expected : List Bytes}
    (fails : here.checked.isMAX485Connected = false ∨ here.tested.testConnection = false ∨
      here.basic = none) : ¬ Publishes lib here poller expected := by
  intro publishes
  have same := Poller.poll_fails lib poller fails
  exact absurd (same.symm.trans publishes.counted) (by simp)

/-- A poll in which every read succeeds in time counts and publishes every name whose field is not
suppressed, once, exactly if it has working hardware and something to read before the storage
registers. -/
theorem custom_device_publishes_iff {lib : ArduinoJson} {single : SinglePrecision}
    (shown : ∀ value, single.text value 2 ≠ []) {content : Bytes} {declarations : Declarations}
    (accepted : validateJSON lib content = .ok declarations) {device loaded : GenericModbusDevice}
    (idle : device.initialized = false) {fs : LittleFS} {opens : Bool}
    (stored : fs.files device.jsonFilePath = some content)
    (begun : device.begin lib fs opens = some loaded)
    {basicWords storageWords : Nat → ReadRequest → Nat → Word} {here : Circumstances}
    (prompt : here.Prompt lib single loaded basicWords storageWords) {poller : Poller}
    (initialized : poller.initialized = true)
    (inverter : poller.inverter = some (.genericModbusDevice device.jsonFilePath)) :
    Publishes lib here poller
        (unsuppressed (declarations.entries device.slaveAddr) basicWords storageWords) ↔
      Readable declarations here := by
  obtain ⟨named, slaveAddr, begins, rfl⟩ := begin_accepted accepted idle stored begun
  have sound := (validateJSON_sound accepted).1
  obtain ⟨basic, storage⟩ := prompt.outcomes sound begins
  rw [slaveAddr] at basic storage
  constructor
  · intro publishes
    by_contra unreadable
    refine not_publishes_of_fails ?_ publishes
    by_contra works
    simp only [not_or, Bool.not_eq_false, basic, ite_eq_left_iff, reduceCtorEq, imp_false,
      not_not] at works
    exact unreadable ⟨works.1, works.2.1, ownEntries_ne_nil_iff.mp works.2.2⟩
  · intro readable
    have entries : ownEntries false (declarations.entries device.slaveAddr) ≠ [] :=
      ownEntries_ne_nil_iff.mpr readable.basic
    have storagePoints : here.storage.getD [] = (answers storageWords 0 (ownEntries true
        (declarations.entries device.slaveAddr))).flatMap fun read =>
          read.1.points single read.2 := by
      rw [storage]
      split_ifs with none
      · rw [none]
        rfl
      · rfl
    rw [if_neg entries] at basic
    obtain ⟨counted, published⟩ := Poller.poll_succeeds lib initialized inverter readable.checked
      readable.tested prompt.connected prompt.storageEnabled basic (points_shown shown)
      (storagePoints ▸ points_shown shown)
    refine ⟨counted, ?_, unsuppressed_nodup sound device.slaveAddr basicWords storageWords⟩
    rw [published, storagePoints, List.map_append, points_names, points_names, unsuppressed,
      List.flatMap_append]

/-! ## Two devices -/

/-- The text of `hybridDocument`. -/
def hybridText : Bytes :=
  ascii "\x7b\"schema_version\":2,\"registers\":[" ++
    ascii "\x7b\"addr\":\"0x0010\",\"name\":\"power\",\"type\":\"int32\"\x7d]," ++
    ascii "\"groups\":[\x7b\"name\":\"battery\",\"start\":\"100\",\"count\":3," ++
    ascii "\"storage\":true,\"fields\":[\x7b\"name\":\"soc\",\"nan_value\":65535\x7d," ++
    ascii "\x7b\"name\":\"flags\",\"offset\":2,\"bits\":[" ++
    ascii "\x7b\"name\":\"charging\",\"mask\":1\x7d," ++
    ascii "\x7b\"name\":\"fault\",\"mask\":\"0x00F0\"\x7d]\x7d]\x7d]\x7d"

/-- The text of a device with a storage register alone. -/
def storageText : Bytes :=
  ascii "\x7b\"registers\":[\x7b\"addr\":\"0\",\"name\":\"v\",\"storage\":true\x7d]\x7d"

/-- The document of that text. -/
def storageDocument : Json :=
  .object [(ascii "registers", .array [.object [(ascii "addr", .string (ascii "0")),
    (ascii "name", .string (ascii "v")), (ascii "storage", .boolean true)]])]

/-- The library, as far as the two texts need it. -/
def registerJson : ArduinoJson :=
  flatJson [(hybridText, hybridDocument), (storageText, storageDocument)]

/-- The file system with such a device. -/
def registerFile (text : Bytes) : LittleFS where
  mounted := true
  files path := if path = ascii "/devices/v.json" then some text else none
  directories path := path = ascii "/devices"

/-- The storage registers are read too. -/
def storageConfig : Config :=
  ⟨ascii "/config.json", .object [(ascii "read_storage_regs", .boolean true)], true⟩

/-- A poll of a device whose storage registers hold 65535, and all others 7. -/
def sevens (device : GenericModbusDevice) : Circumstances where
  config := storageConfig
  identity := ⟨[], []⟩
  now := 0
  checked := ⟨true, 4⟩
  tested := ⟨true, 4⟩
  basic := (readBasic wholeNumbers device (promptInput 7) registerJson storageConfig).bind
    Reading.outcome
  storage := (readStorage wholeNumbers device (promptInput 65535) registerJson storageConfig).bind
    Reading.outcome
  moments _ := ⟨true, true, 0, 0⟩

/-- The poller of the device. -/
def registerPoller : Poller :=
  { Poller.create with
    initialized := true
    inverter := some (.genericModbusDevice (ascii "/devices/v.json")) }

theorem sevens_prompt {declarations : Declarations} (sound : declarations.Sound)
    {named : GenericModbusDevice} (begins : named.initialized = true) :
    (sevens (withDeclarations named declarations)).Prompt registerJson wholeNumbers
      (withDeclarations named declarations) (fun _ _ _ => 7) (fun _ _ _ => 65535) := by
  have answered : ∀ word budget, (promptInput word).Answered budget (fun _ _ _ => word) :=
    fun word budget => ⟨fun _ => by simp [promptInput], fun _ _ => rfl⟩
  have reads := fun storagePhase word => readPhase_reads_all wholeNumbers named storagePhase
    (answered word (pollBudgetMs registerJson storageConfig)) sound
  have enabled : storageConfig.getBool (ascii "read_storage_regs") false = true := by
    decide +kernel
  refine ⟨enabled, fun _ => rfl, ?_, ?_⟩
  · obtain ⟨requests, found⟩ := reads false 7
    have basic :=
      (readBasic_begun (withDeclarations named declarations) begins ..).trans found
    exact ⟨promptInput 7, _, answered _ _, basic, congrArg (Option.bind · Reading.outcome) basic⟩
  · obtain ⟨requests, found⟩ := reads true 65535
    have storage :=
      (readStorage_begun (withDeclarations named declarations) begins ..).trans found
    exact ⟨promptInput 65535, _, answered _ _, storage,
      congrArg (Option.bind · Reading.outcome) storage⟩

/-- The device of that file, before it begins. -/
def registerDevice : GenericModbusDevice :=
  .create registerJson storageConfig (ascii "/devices/v.json")

/-- A text that is accepted, with declarations that pass a test, and begins. -/
theorem register_loaded {text : Bytes} (passes : Declarations → Bool)
    (accepted : (validateJSON registerJson text).toOption.any passes = true)
    (begins : (registerDevice.begin registerJson (registerFile text) true).isSome = true) :
    ∃ declarations loaded, validateJSON registerJson text = .ok declarations ∧
      registerDevice.begin registerJson (registerFile text) true = some loaded ∧
      passes declarations = true := by
  obtain ⟨declarations, accepted, declared⟩ := Fallible.exists_ok accepted
  obtain ⟨loaded, begun⟩ := Option.isSome_iff_exists.mp begins
  exact ⟨declarations, loaded, accepted, begun, declared⟩

theorem register_prompt {text : Bytes} {declarations : Declarations}
    {loaded : GenericModbusDevice}
    (accepted : validateJSON registerJson text = .ok declarations)
    (begun : registerDevice.begin registerJson (registerFile text) true = some loaded) :
    (sevens loaded).Prompt registerJson wholeNumbers loaded (fun _ _ _ => 7)
      (fun _ _ _ => 65535) := by
  obtain ⟨named, -, begins, rfl⟩ := begin_accepted accepted rfl rfl begun
  exact sevens_prompt (validateJSON_sound accepted).1 begins

theorem wholeNumbers_shown (value : wholeNumbers.Float) : wholeNumbers.text value 2 ≠ [] := by
  simp [wholeNumbers, List.replicate]

/-- The register is published and the two bits, but not the field that holds its `nan_value`. -/
theorem custom_device_publishes_hybrid : ∃ declarations loaded,
    validateJSON registerJson hybridText = .ok declarations ∧
      registerDevice.begin registerJson (registerFile hybridText) true = some loaded ∧
      Publishes registerJson (sevens loaded) registerPoller
        [ascii "power", ascii "charging", ascii "fault"] := by
  obtain ⟨declarations, loaded, accepted, begun, declared⟩ := @register_loaded hybridText
    (fun declarations => declarations.registers.map RegisterDef.isStorage == [false] &&
      unsuppressed (declarations.entries registerDevice.slaveAddr) (fun _ _ _ => 7)
        (fun _ _ _ => 65535) == [ascii "power", ascii "charging", ascii "fault"])
    (by decide +kernel) (by decide +kernel)
  simp only [Bool.and_eq_true, beq_iff_eq] at declared
  obtain ⟨phases, names⟩ := declared
  refine ⟨declarations, loaded, accepted, begun, ?_⟩
  rw [← names]
  exact (custom_device_publishes_iff wholeNumbers_shown accepted rfl rfl begun
    (register_prompt accepted begun) rfl rfl).mpr
    ⟨rfl, rfl, .inl (List.mem_map.mp (phases ▸ List.mem_singleton_self false))⟩

/-- A device with a storage register alone is accepted and begins, but its polls fail, and nothing
of it is published. -/
theorem storage_register_unpublished : ∃ declarations loaded,
    validateJSON registerJson storageText = .ok declarations ∧
      registerDevice.begin registerJson (registerFile storageText) true = some loaded ∧
      (sevens loaded).Prompt registerJson wholeNumbers loaded (fun _ _ _ => 7)
        (fun _ _ _ => 65535) ∧
      (sevens loaded).checked.isMAX485Connected = true ∧
      (sevens loaded).tested.testConnection = true ∧
      ¬ Publishes registerJson (sevens loaded) registerPoller
        (unsuppressed (declarations.entries registerDevice.slaveAddr)
          (fun _ _ _ => 7) (fun _ _ _ => 65535)) := by
  obtain ⟨declarations, loaded, accepted, begun, declared⟩ := @register_loaded storageText
    (fun declarations => declarations.registers.map RegisterDef.isStorage == [true] &&
      declarations.groups.length == 0) (by decide +kernel) (by decide +kernel)
  simp only [Bool.and_eq_true, beq_iff_eq] at declared
  obtain ⟨phases, groups⟩ := declared
  refine ⟨declarations, loaded, accepted, begun, register_prompt accepted begun, rfl, rfl,
    not_publishes_of_fails (.inr (.inr ?_))⟩
  obtain ⟨named, slaveAddr, begins, rfl⟩ := begin_accepted accepted rfl rfl begun
  have sound := (validateJSON_sound accepted).1
  rw [((sevens_prompt sound begins).outcomes sound begins).1]
  refine if_pos (not_not.mp fun entries => ?_)
  rcases ownEntries_ne_nil_iff.mp entries with ⟨reg, listed, basic⟩ | ⟨grp, listed, -⟩
  · have phase := List.mem_map_of_mem (f := RegisterDef.isStorage) listed
    rw [phases, basic] at phase
    simp at phase
  · rw [List.length_eq_zero_iff] at groups
    exact absurd (groups ▸ listed) List.not_mem_nil

end ModbusBridge
