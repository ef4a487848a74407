import ModbusBridge.Configuration.ArduinoJson
import ModbusBridge.Library.StepSystem
import ModbusBridge.Modbus.Answers

/-!
# Diagnostic reads

The actions `probe` and `scan_range` of `handleDiagnosticsAPI` read registers into an array of ten
words and print them. How many registers a request may ask for is left to the Modbus client, whose
limit is another one.
-/

namespace ModbusBridge

/-! ## What a read stores -/

/-- The indices that the loop of `parseReadResponse` assigns. It ends with the return of true. -/
def parseStores (response : Bytes) (expectedCount : Word) (data : Nat → Word) : List Nat :=
  if (parseReadResponse response expectedCount data).1 then List.range expectedCount.toNat else []

theorem parseReadResponse_snd (response : Bytes) (expectedCount : Word) (data : Nat → Word) :
    (parseReadResponse response expectedCount data).2 =
      if (parseReadResponse response expectedCount data).1 then
        decodeWords response expectedCount.toNat data
      else data := by
  rw [parseReadResponse]
  dsimp only
  split_ifs <;> first | rfl | contradiction

/-- Nothing else in the caller's array changes. -/
theorem parseReadResponse_of_not_mem {response : Bytes} {expectedCount : Word} {data : Nat → Word}
    {index : Nat} (outside : index ∉ parseStores response expectedCount data) :
    (parseReadResponse response expectedCount data).2 index = data index := by
  rw [parseStores] at outside
  rw [parseReadResponse_snd]
  split_ifs at outside ⊢
  · exact if_neg (by simpa using outside)
  · rfl

/-- A reply that is taken is no exception. -/
theorem noException_of_parseReadResponse {response : Bytes} {expectedCount : Word}
    {data : Nat → Word} (taken : (parseReadResponse response expectedCount data).1 = true) :
    response.getD 1 0 &&& 0x80 = 0 := by
  by_contra exception
  rw [parseReadResponse, if_pos exception] at taken
  split_ifs at taken

namespace ModbusClient

variable (client : ModbusClient) (slaveId function : UInt8) (startAddr count : Word)
  (data : Nat → Word)

/-- The indices of `data` that `readOnce` assigns. -/
def onceStores (bus : Exchange) : List Nat :=
  let frame := buildReadFrame slaveId function startAddr count
  if frame.length > 0 ∧ client.sendFrame frame bus.written then
    match client.receiveFrame bus with
    | some response => parseStores response count data
    | none => []
  else []

/-- The indices of `data` that the loop of `readWithRetry` assigns. -/
def attemptsStores (client : ModbusClient) (data : Nat → Word) (bus : Nat → Exchange)
    (attempt : Nat) : Nat → List Nat
  | 0 => []
  | left + 1 =>
      let result := client.readOnce slaveId function startAddr count data (bus attempt)
      client.onceStores slaveId function startAddr count data (bus attempt) ++
        if result.success then []
        else attemptsStores result.client result.data bus (attempt + 1) left

/-- The indices of `data` that `readWithRetry` assigns. -/
def readStores (maxAttempts : UInt8) (bus : Nat → Exchange) : List Nat :=
  if !client.initialized ∨ count = 0 ∨ count > 125 then []
  else
    let maxAttempts := if maxAttempts < 1 then 1 else maxAttempts
    let maxAttempts := if maxAttempts > 10 then 10 else maxAttempts
    attemptsStores slaveId function startAddr count client data bus 0 maxAttempts.toNat

theorem onceStores_eq (bus : Exchange) :
    client.onceStores slaveId function startAddr count data bus =
      if (client.readOnce slaveId function startAddr count data bus).success then
        List.range count.toNat
      else [] := by
  rw [onceStores, readOnce]
  dsimp only
  split
  next =>
      -- the entry in the frame log does not change what is received
      change (match client.receiveFrame bus with
        | some response => parseStores response count data
        | none => []) = _
      cases received : client.receiveFrame bus with
      | none =>
          have after : ∀ entry, (client.logFrame entry).receiveFrame bus = none := fun _ => received
          simp only [after]
          rfl
      | some response =>
          have after : ∀ entry, (client.logFrame entry).receiveFrame bus = some response :=
            fun _ => received
          simp only [after, parseStores]
          cases taken : (parseReadResponse response count data).1 with
          | false => rfl
          | true =>
              have quiet : decide (response.length ≥ 3 ∧ response.getD 1 0 &&& 0x80 ≠ 0) = false :=
                decide_eq_false fun both => both.2 (noException_of_parseReadResponse taken)
              simp only [quiet]
              rfl
  next => rfl

/-- The attempts store something only if one of them succeeds. -/
theorem attemptsStores_eq (bus : Nat → Exchange) (left : Nat) (client : ModbusClient)
    (data : Nat → Word) (attempt : Nat) :
    attemptsStores slaveId function startAddr count client data bus attempt left =
      if (client.attempts slaveId function startAddr count data bus attempt left).success then
        List.range count.toNat
      else [] := by
  induction left generalizing client data attempt with
  | zero => rfl
  | succ left induction =>
      rw [attemptsStores, attempts]
      dsimp only
      rw [onceStores_eq]
      by_cases success :
          (client.readOnce slaveId function startAddr count data (bus attempt)).success = true
      · simp only [if_pos success, List.append_nil]
      · simp only [if_neg success, List.nil_append]
        exact induction _ _ _

/-- A read stores all the words that it asks for, or none. -/
theorem readStores_eq (maxAttempts : UInt8) (bus : Nat → Exchange) :
    client.readStores slaveId function startAddr count data maxAttempts bus =
      if (client.readWithRetry slaveId function startAddr count data maxAttempts bus).success then
        List.range count.toNat
      else [] := by
  rw [readStores, readWithRetry]
  dsimp only
  split
  · rfl
  · exact attemptsStores_eq ..

end ModbusClient

/-! ## The actions -/

namespace Diagnostics

/-- What both actions take from the body of a request. -/
structure Query where
  slave : UInt8
  fc : UInt8
  count : Word

variable (lib : ArduinoJson) (doc : Json) (client : ModbusClient)

/-- The slave, the function code and the count of a body. -/
def requested : Query where
  slave := .ofBitVec ((doc.member (ascii "slave")).asUnsigned lib 8)
  fc := .ofBitVec ((doc.member (ascii "fc")).asUnsigned lib 8)
  count := (doc.member (ascii "count")).asUnsigned lib 16

/-- `(uint16_t)strtol(doc[key].as<String>().c_str(), NULL, 0)`. -/
def address (key : Bytes) : Word := .ofInt 16 (strtol ((doc.member key).asString lib))

/-- What a turn finds: the words in `values` before the read, and the bus. -/
structure Turn where
  values : Nat → Word
  bus : Nat → Exchange

/-- The read of a turn, and the indices of `values` that it assigns. Without one of the two function
codes there is no read. -/
def Query.read (query : Query) (addr : Word) (turn : Turn) : ReadResult × List Nat :=
  if query.fc = 3 then
    (client.readHoldingRegisters query.slave addr query.count turn.values 1 turn.bus,
      client.readStores query.slave fcReadHoldingRegisters addr query.count turn.values 1 turn.bus)
  else if query.fc = 4 then
    (client.readInputRegisters query.slave addr query.count turn.values 1 turn.bus,
      client.readStores query.slave fcReadInputRegisters addr query.count turn.values 1 turn.bus)
  else
    ({ success := false, client, data := turn.values, sent := [], accepted := none }, [])

/-- `✓` -/
def checkMark : Bytes := [0xE2, 0x9C, 0x93]

/-- `✗` -/
def ballotX : Bytes := [0xE2, 0x9C, 0x97]

/-- What an action has done with `values` so far. -/
structure Accesses where
  /-- The indices that reads have assigned. -/
  stored : List Nat
  /-- The indices whose words are in the page. -/
  printed : List Nat

/-- The words of `values`. -/
def valuesSize : Nat := 10

/-- All accesses stay in the array. -/
def Accesses.Within (accesses : Accesses) : Prop :=
  (∀ index ∈ accesses.stored, index < valuesSize) ∧ ∀ index ∈ accesses.printed, index < valuesSize

/-- A page with the results, and what has led to it. -/
structure Probe extends Accesses where
  html : Bytes
  client : ModbusClient

/-- `probe`. -/
def probe (turn : Turn) : Probe :=
  let query := requested lib doc
  let addr := address lib doc (ascii "addr")
  let (result, stored) := query.read client addr turn
  let printed := if result.success then List.range query.count.toNat else []
  let line (i : Nat) : Bytes :=
    ascii "Register 0x" ++ hexadecimal (addr.toNat + i) ++ ascii " = 0x" ++
      hexadecimal (result.data i).toNat ++ ascii " (" ++ decimal (result.data i).toNat ++
      ascii ")<br>"
  { client := result.client, stored, printed
    html :=
      if result.success then
        ascii "<span class='success'>" ++ checkMark ++ ascii " Success!</span><br>" ++
          printed.flatMap line
      else
        ascii "<span class='error'>" ++ ballotX ++ ascii " Failed</span><br>" ++
          ascii "Check slave address, register, or function code." }

/-- `scan_range` at the head of its loop. -/
structure Scan extends Accesses where
  addr : Word
  html : Bytes
  found : Nat
  client : ModbusClient

/-- The body of the loop of `scan_range`. -/
def Query.scan (query : Query) (scan : Scan) (turn : Turn) : Scan :=
  let (result, stored) := query.read scan.client scan.addr turn
  let printed := if result.success then List.range query.count.toNat else []
  let word (i : Nat) : Bytes := ascii "0x" ++ hexadecimal (result.data i).toNat
  { addr := scan.addr + 1
    html :=
      if result.success then
        scan.html ++ ascii "<span class='success'>" ++ checkMark ++ ascii " 0x" ++
          hexadecimal scan.addr.toNat ++ ascii " = " ++
          (ascii ", ").intercalate (printed.map word) ++ ascii "</span><br>"
      else scan.html
    found := if result.success then scan.found + 1 else scan.found
    client := result.client
    stored := scan.stored ++ stored
    printed := scan.printed ++ printed }

/-- `scan_range`. Its loop does not end when the last address is 0xFFFF. -/
def scanRange : StepSystem Scan Turn where
  start :=
    let start := address lib doc (ascii "start")
    let last := address lib doc (ascii "end")
    { addr := start
      html := ascii "<strong>Scanning 0x" ++ hexadecimal start.toNat ++ ascii " to 0x" ++
        hexadecimal last.toNat ++ ascii ":</strong><br><br>"
      found := 0
      client
      stored := []
      printed := [] }
  next scan turn :=
    if scan.addr ≤ address lib doc (ascii "end") then some ((requested lib doc).scan scan turn)
    else none

/-- The page of `scan_range`, after its loop. -/
def Scan.report (scan : Scan) : Bytes :=
  if scan.found = 0 then
    scan.html ++ ascii "<span class='error'>" ++ ballotX ++ ascii " No registers responded</span>"
  else
    scan.html ++ ascii "<br><strong>Found " ++ decimal scan.found ++
      ascii " working register(s)</strong>"

/-! ## Accesses -/

variable {client} {query : Query}

/-- The slave answers a request for more words than the array has. -/
structure Overfull (query : Query) (client : ModbusClient) (bus : Exchange) : Prop where
  initialized : client.initialized = true
  function : query.fc = 3 ∨ query.fc = 4
  many : valuesSize < query.count.toNat
  few : query.count.toNat ≤ 125
  answered : (client.candidate query.count.toNat bus).isSome = true

/-- A read with one of the two function codes. -/
theorem Query.read_table (client : ModbusClient) {table : Table} (code : query.fc = table.function)
    (addr : Word) (turn : Turn) :
    query.read client addr turn =
      (client.readWithRetry query.slave table.function addr query.count turn.values 1 turn.bus,
        client.readStores query.slave table.function addr query.count turn.values 1 turn.bus) := by
  cases table with
  | holding => exact if_pos code
  | input =>
      have other : query.fc ≠ 3 := code ▸ by decide
      exact (if_neg other).trans (if_pos code)

theorem Query.read_other (client : ModbusClient) (code : ∀ table : Table, query.fc ≠ table.function)
    (addr : Word) (turn : Turn) :
    query.read client addr turn =
      ({ success := false, client, data := turn.values, sent := [], accepted := none }, []) :=
  (if_neg (code .holding)).trans (if_neg (code .input))

/-- A turn stores what it prints. -/
theorem Query.read_stores (query : Query) (client : ModbusClient) (addr : Word) (turn : Turn) :
    (query.read client addr turn).2 =
      if (query.read client addr turn).1.success then List.range query.count.toNat else [] := by
  by_cases code : ∃ table : Table, query.fc = table.function
  · obtain ⟨table, code⟩ := code
    rw [Query.read_table client code]
    exact client.readStores_eq ..
  · rw [Query.read_other client (not_exists.mp code)]
    rfl

theorem Query.read_client (query : Query) (client : ModbusClient) (addr : Word) (turn : Turn) :
    let after := (query.read client addr turn).1.client
    after.initialized = client.initialized ∧ after.responseTimeout = client.responseTimeout := by
  by_cases code : ∃ table : Table, query.fc = table.function
  · obtain ⟨table, code⟩ := code
    rw [Query.read_table client code]
    exact client.readWithRetry_client ..
  · rw [Query.read_other client (not_exists.mp code)]
    exact ⟨rfl, rfl⟩

/-- A read with one attempt succeeds when the bus answers it. -/
theorem readWithRetry_once_iff (client : ModbusClient) (slaveId : UInt8) (table : Table)
    (startAddr count : Word) (data : Nat → Word) (bus : Nat → Exchange) :
    (client.readWithRetry slaveId table.function startAddr count data 1 bus).success = true ↔
      client.initialized = true ∧ 0 < count.toNat ∧ count.toNat ≤ 125 ∧
        (client.candidate count.toNat (bus 0)).isSome = true := by
  by_cases accepted : client.initialized = true ∧ 0 < count.toNat ∧ count.toNat ≤ 125
  · obtain ⟨initialized, positive, small⟩ := accepted
    have outcome := client.attempts_outcome initialized small table slaveId startAddr data bus 0 1
    rw [client.readWithRetry_eq initialized positive small,
      show turns 1 = 1 from rfl, outcome.1]
    simp [initialized, positive, small]
  · have refused : !client.initialized ∨ count = 0 ∨ count > 125 := by
      by_contra none
      simp only [not_or] at none
      exact accepted ⟨by simpa using none.1, by bv_omega, by bv_omega⟩
    rw [ModbusClient.readWithRetry, if_pos refused]
    exact iff_of_false Bool.false_ne_true
      fun answered => accepted ⟨answered.1, answered.2.1, answered.2.2.1⟩

theorem exists_table_iff (code : UInt8) :
    (∃ table : Table, code = table.function) ↔ code = 3 ∨ code = 4 := by
  constructor
  · rintro ⟨_ | _, rfl⟩
    · exact .inl rfl
    · exact .inr rfl
  · rintro (rfl | rfl)
    · exact ⟨.holding, rfl⟩
    · exact ⟨.input, rfl⟩

theorem Query.read_success_iff (query : Query) (client : ModbusClient) (addr : Word)
    (turn : Turn) :
    (query.read client addr turn).1.success = true ↔
      client.initialized = true ∧ (query.fc = 3 ∨ query.fc = 4) ∧ 0 < query.count.toNat ∧
        query.count.toNat ≤ 125 ∧
        (client.candidate query.count.toNat (turn.bus 0)).isSome = true := by
  by_cases code : ∃ table : Table, query.fc = table.function
  · have named := (exists_table_iff query.fc).mp code
    obtain ⟨table, code⟩ := code
    rw [Query.read_table client code, readWithRetry_once_iff]
    simp [named]
  · rw [Query.read_other client (not_exists.mp code)]
    exact iff_of_false Bool.false_ne_true
      fun answered => code ((exists_table_iff query.fc).mpr answered.2.1)

/-- The words of a turn fit, unless the slave answers a request that is too long. -/
theorem Query.fits_iff (query : Query) (client : ModbusClient) (addr : Word) (turn : Turn) :
    (∀ index ∈ if (query.read client addr turn).1.success then List.range query.count.toNat else [],
        index < valuesSize) ↔
      ¬ Overfull query client (turn.bus 0) := by
  have fit : (∀ index ∈ List.range query.count.toNat, index < valuesSize) ↔
      query.count.toNat ≤ valuesSize := by
    constructor
    · intro inside
      by_contra many
      exact lt_irrefl _ (inside valuesSize (List.mem_range.mpr (Nat.lt_of_not_le many)))
    · exact fun few index member => (List.mem_range.mp member).trans_le few
  split_ifs with success
  · obtain ⟨initialized, function, -, few, answered⟩ := (query.read_success_iff ..).mp success
    rw [fit]
    exact ⟨fun fits overfull => Nat.not_le_of_lt overfull.many fits,
      fun none => Nat.le_of_not_lt fun many => none ⟨initialized, function, many, few, answered⟩⟩
  · refine iff_of_true (fun index member => absurd member List.not_mem_nil) fun overfull => ?_
    exact success ((query.read_success_iff ..).mpr ⟨overfull.initialized, overfull.function,
      Nat.zero_lt_of_lt overfull.many, overfull.few, overfull.answered⟩)

/-- Whether a turn is overfull does not depend on the frame log. -/
theorem overfull_congr {after : ModbusClient} (ready : after.initialized = client.initialized)
    (same : after.responseTimeout = client.responseTimeout) (bus : Exchange) :
    Overfull query after bus ↔ Overfull query client bus := by
  have candidate := ModbusClient.candidate_congr same query.count.toNat bus
  constructor
  · exact fun overfull => ⟨ready.symm.trans overfull.initialized, overfull.function,
      overfull.many, overfull.few, candidate ▸ overfull.answered⟩
  · exact fun overfull => ⟨ready.trans overfull.initialized, overfull.function, overfull.many,
      overfull.few, candidate.symm ▸ overfull.answered⟩

theorem probe_within_iff (lib : ArduinoJson) (doc : Json) (client : ModbusClient) (turn : Turn) :
    (probe lib doc client turn).Within ↔
      ¬ Overfull (requested lib doc) client (turn.bus 0) := by
  have fits := (requested lib doc).fits_iff client (address lib doc (ascii "addr")) turn
  rw [← fits]
  refine ⟨fun within => within.2, fun inside => ⟨?_, inside⟩⟩
  simp only [probe]
  rw [Query.read_stores]
  exact inside

/-- One turn of a scan: its own words are stored and printed, and the client is kept. -/
theorem scan_within_iff (query : Query) (scan : Scan) (turn : Turn) :
    (query.scan scan turn).Within ↔
      scan.Within ∧ ¬ Overfull query scan.client (turn.bus 0) := by
  rw [← query.fits_iff scan.client scan.addr turn]
  rw [Accesses.Within]
  simp only [Query.scan, Query.read_stores, List.forall_mem_append]
  exact ⟨fun within => ⟨⟨within.1.1, within.2.1⟩, within.1.2⟩,
    fun within => ⟨⟨within.1.1, within.2⟩, within.1.2, within.2⟩⟩

/-- A probe or a scan stays in its array, if and only if no slave answers a request for more words
than the array has. -/
theorem accesses_within_iff (lib : ArduinoJson) (doc : Json) (client : ModbusClient) :
    (∀ turn, (probe lib doc client turn).Within ↔
        ¬ Overfull (requested lib doc) client (turn.bus 0)) ∧
      ∀ turns scan, (scanRange lib doc client).run (fun _ _ => True)
          (scanRange lib doc client).start turns = some scan →
        (scan.Within ↔ ∀ turn ∈ turns, ¬ Overfull (requested lib doc) client (turn.bus 0)) := by
  refine ⟨probe_within_iff lib doc client, fun turns scan runs => ?_⟩
  have gathered := StepSystem.run_gathers
    (fun scan => scan.client.initialized = client.initialized ∧
      scan.client.responseTimeout = client.responseTimeout)
    (fun scan => scan.Within) (fun turn => ¬ Overfull (requested lib doc) client (turn.bus 0)) ?_
    ⟨rfl, rfl⟩ runs
  · refine gathered.trans (and_iff_right ⟨?_, ?_⟩) <;>
      exact fun _ member => absurd member List.not_mem_nil
  · rintro before turn after ⟨ready, same⟩ moves
    obtain rfl : (requested lib doc).scan before turn = after :=
      Option.some.inj (Option.ite_none_right_eq_some.mp moves).2
    obtain ⟨still, unchanged⟩ := (requested lib doc).read_client before.client before.addr turn
    refine ⟨⟨still.trans ready, unchanged.trans same⟩, ?_⟩
    rw [scan_within_iff, overfull_congr ready same]

/-- A bus with a slave 1 whose registers are all 0, for reads of so many words. -/
def zeros (words : Nat) : Turn where
  values _ := 0
  bus _ := .prompt (withCRC ([1, 3, .ofNat (2 * words)] ++ List.replicate (2 * words) 0))

/-- Two turns of ten words each. -/
theorem scan_within_two :
    let doc : Json := .object [(ascii "slave", .integer 1), (ascii "start", .string (ascii "0x10")),
      (ascii "end", .string (ascii "0x11")), (ascii "fc", .integer 3), (ascii "count", .integer 10)]
    ∃ scan, (scanRange (flatJson []) doc ⟨true, 1000, []⟩).run (fun _ _ => True)
        (scanRange (flatJson []) doc ⟨true, 1000, []⟩).start [zeros 10, zeros 10] = some scan ∧
      scan.found = 2 ∧ scan.Within := by
  intro doc
  have tested : ((scanRange (flatJson []) doc ⟨true, 1000, []⟩).run (fun _ _ => True)
      (scanRange (flatJson []) doc ⟨true, 1000, []⟩).start [zeros 10, zeros 10]).any
        (fun scan => scan.found = 2) = true := by
    decide +kernel
  obtain ⟨scan, runs, two⟩ := (Option.any_eq_true ..).mp tested
  have ten : (requested (flatJson []) doc).count.toNat = valuesSize := by decide +kernel
  exact ⟨scan, runs, of_decide_eq_true two,
    ((accesses_within_iff (flatJson []) doc ⟨true, 1000, []⟩).2 _ scan runs).mpr
      fun _ _ overfull => absurd overfull.many (by rw [ten]; exact lt_irrefl _)⟩

/-- Twenty words, the last ten of them behind the array. -/
theorem probe_outside :
    let body := ascii
      "\x7b\"action\":\"probe\",\"slave\":1,\"addr\":\"0x0\",\"fc\":3,\"count\":20\x7d"
    let doc : Json := .object [(ascii "action", .string (ascii "probe")),
      (ascii "slave", .integer 1), (ascii "addr", .string (ascii "0x0")), (ascii "fc", .integer 3),
      (ascii "count", .integer 20)]
    let lib := flatJson [(body, doc)]
    lib.deserializeJson body = .ok doc ∧
      19 ∈ (probe lib doc ⟨true, 1000, []⟩ (zeros 20)).stored ∧
      ¬ (probe lib doc ⟨true, 1000, []⟩ (zeros 20)).Within := by
  intro body doc lib
  have known : lib.deserializeJson body = .ok doc := by simp [lib, flatJson]
  have beyond : 19 ∈ (probe lib doc ⟨true, 1000, []⟩ (zeros 20)).stored := by decide +kernel
  exact ⟨known, beyond, fun within => absurd (within.1 19 beyond) (by decide)⟩

end Diagnostics

end ModbusBridge
