import ModbusBridge.Modbus.Client

/-!
# Which replies a read accepts

A read accepts the first reply that passes the checks of `receiveFrame` and `parseReadResponse`.
These checks tie a reply to its request by the byte count alone.
-/

namespace ModbusBridge

/-! ## The checks of one transaction -/

/-- A frame that the client takes for a reply with `count` registers. -/
structure Acceptable (count : Nat) (frame : Bytes) : Prop where
  crc : validateCRC frame = true
  noException : frame.getD 1 0 &&& 0x80 = 0
  byteCount : (frame.getD 2 0).toNat = 2 * count
  long : 5 + 2 * count ≤ frame.length

instance (count : Nat) (frame : Bytes) : Decidable (Acceptable count frame) :=
  decidable_of_iff (validateCRC frame = true ∧ frame.getD 1 0 &&& 0x80 = 0 ∧
    (frame.getD 2 0).toNat = 2 * count ∧ 5 + 2 * count ≤ frame.length)
    ⟨fun ⟨crc, noException, byteCount, long⟩ => ⟨crc, noException, byteCount, long⟩,
      fun frame => ⟨frame.crc, frame.noException, frame.byteCount, frame.long⟩⟩

/-- What the bus delivers in a transaction whose request is sent, if the client takes it. -/
def ModbusClient.candidate (client : ModbusClient) (count : Nat) (bus : Exchange) : Option Bytes :=
  match client.delivered bus with
  | some frame => if bus.written = 8 ∧ Acceptable count frame then some frame else none
  | none => none

theorem setWidth_eq_double_iff {byte : UInt8} {count : Word} (small : count.toNat ≤ 125) :
    byte.toBitVec.setWidth 16 = count * 2 ↔ byte.toNat = 2 * count.toNat := by
  have bound := byte.toNat_lt
  rw [← BitVec.toNat_inj, BitVec.toNat_setWidth, BitVec.toNat_mul, UInt8.toNat_toBitVec]
  simp
  omega

/-- `parseReadResponse` on a frame that has passed `receiveFrame`. -/
theorem parseReadResponse_eq {frame : Bytes} {count : Word} (small : count.toNat ≤ 125)
    (crc : validateCRC frame = true) (data : Nat → Word) :
    parseReadResponse frame count data =
      if 5 ≤ frame.length ∧ Acceptable count.toNat frame then
        (true, decodeWords frame count.toNat data)
      else (false, data) := by
  rw [parseReadResponse]
  by_cases short : frame.length < 5
  · rw [if_pos short, if_neg (by omega)]
  · rw [if_neg short]
    by_cases exception : frame.getD 1 0 &&& 0x80 ≠ 0
    · rw [if_pos exception, if_neg (fun taken => exception taken.2.noException)]
    · rw [if_neg exception]
      dsimp only
      by_cases bytes : (frame.getD 2 0).toNat = 2 * count.toNat
      · rw [if_neg (by rw [ne_eq, setWidth_eq_double_iff small]; simpa using bytes)]
        by_cases long : frame.length < 3 + (frame.getD 2 0).toNat + 2
        · rw [if_pos long, if_neg (fun taken => by have := taken.2.long; omega)]
        · rw [if_neg long, if_pos ⟨by omega, crc, by simpa using exception, bytes, by omega⟩]
      · rw [if_pos (by rw [ne_eq, setWidth_eq_double_iff small]; exact bytes),
          if_neg (fun taken => bytes taken.2.byteCount)]

@[simp] theorem ModbusClient.logFrame_initialized (client : ModbusClient) (entry : ModbusFrameLog) :
    (client.logFrame entry).initialized = client.initialized := rfl

@[simp] theorem ModbusClient.logFrame_delivered (client : ModbusClient) (entry : ModbusFrameLog)
    (bus : Exchange) : (client.logFrame entry).delivered bus = client.delivered bus := rfl

/-- The register tables that a read addresses. -/
inductive Table
  | holding
  | input
  deriving DecidableEq

/-- The function code of a table. -/
def Table.function : Table → UInt8
  | holding => fcReadHoldingRegisters
  | input => fcReadInputRegisters

theorem buildReadFrame_eq (table : Table) (slaveId : UInt8) (startAddr count : Word) :
    buildReadFrame slaveId table.function startAddr count =
      let frame := [slaveId, table.function, highByte startAddr, lowByte startAddr,
        highByte count, lowByte count]
      frame ++ [lowByte (calculateCRC frame), highByte (calculateCRC frame)] := by
  cases table <;> rfl

@[simp] theorem buildReadFrame_length (table : Table) (slaveId : UInt8) (startAddr count : Word) :
    (buildReadFrame slaveId table.function startAddr count).length = 8 := by
  rw [buildReadFrame_eq]
  rfl

namespace ModbusClient

variable {client : ModbusClient} {count : Word}

/-- What a transaction may change in the client. -/
theorem readOnce_client (initialized : client.initialized = true) (slaveId function : UInt8)
    (startAddr count : Word) (data : Nat → Word) (bus : Exchange) :
    let after := (client.readOnce slaveId function startAddr count data bus).client
    after.initialized = true ∧ after.responseTimeout = client.responseTimeout := by
  simp only [readOnce]
  split
  · split <;> exact ⟨initialized, rfl⟩
  · exact ⟨initialized, rfl⟩

theorem attempts_client (initialized : client.initialized = true) (slaveId function : UInt8)
    (startAddr count : Word) (data : Nat → Word) (bus : Nat → Exchange) (attempt left : Nat) :
    let after := (client.attempts slaveId function startAddr count data bus attempt left).client
    after.initialized = true ∧ after.responseTimeout = client.responseTimeout := by
  induction left generalizing client data attempt with
  | zero => exact ⟨initialized, rfl⟩
  | succ left induction =>
      obtain ⟨ready, same⟩ :=
        readOnce_client initialized slaveId function startAddr count data (bus attempt)
      rw [attempts]
      dsimp only
      split_ifs
      · exact ⟨ready, same⟩
      · obtain ⟨still, unchanged⟩ := induction ready _ (attempt + 1)
        exact ⟨still, unchanged.trans same⟩

/-- Only the frame log of a client changes in a read. -/
theorem readWithRetry_client (client : ModbusClient) (slaveId function : UInt8)
    (startAddr count : Word) (data : Nat → Word) (maxAttempts : UInt8) (bus : Nat → Exchange) :
    let after := (client.readWithRetry slaveId function startAddr count data maxAttempts bus).client
    after.initialized = client.initialized ∧ after.responseTimeout = client.responseTimeout := by
  rw [readWithRetry]
  dsimp only
  split
  next => exact ⟨rfl, rfl⟩
  next accepted =>
      have initialized : client.initialized = true := by
        simp only [not_or] at accepted
        simpa using accepted.1
      obtain ⟨ready, same⟩ :=
        attempts_client initialized slaveId function startAddr count data bus 0 _
      exact ⟨ready.trans initialized.symm, same⟩

/-- A transaction succeeds on an acceptable frame and on nothing else. -/
theorem readOnce_outcome (initialized : client.initialized = true) (small : count.toNat ≤ 125)
    (table : Table) (slaveId : UInt8) (startAddr : Word) (data : Nat → Word) (bus : Exchange) :
    let result := client.readOnce slaveId table.function startAddr count data bus
    let candidate := client.candidate count.toNat bus
    result.success = candidate.isSome ∧ result.accepted = candidate ∧
      result.data = candidate.elim data fun frame => decodeWords frame count.toNat data := by
  have built := buildReadFrame_length table slaveId startAddr count
  have sends : client.sendFrame (buildReadFrame slaveId table.function startAddr count)
      bus.written = decide (bus.written = 8) := by
    simp [sendFrame, initialized, built]
  simp only [readOnce, candidate, built, sends]
  by_cases whole : bus.written = 8
  · simp only [whole, decide_true, true_and, if_true, show (8 > 0) = True by simp]
    cases heard : client.delivered bus with
    | none => simp [receiveFrame, initialized, heard]
    | some frame =>
        by_cases short : frame.length < 5
        · have refused : ¬ Acceptable count.toNat frame := fun taken => by
            have := taken.long
            omega
          simp [receiveFrame, initialized, heard, short, refused]
        · by_cases crc : validateCRC frame = true
          · have parsed := parseReadResponse_eq small crc data
            by_cases taken : Acceptable count.toNat frame
            · rw [if_pos ⟨by omega, taken⟩] at parsed
              have quiet := taken.noException
              rw [List.getD_eq_getElem?_getD] at quiet
              simp only [receiveFrame, logFrame_initialized, initialized, logFrame_delivered, heard,
                short, crc, taken]
              simp [parsed, quiet]
            · rw [if_neg (fun both => taken both.2)] at parsed
              simp [receiveFrame, initialized, heard, short, crc, parsed, taken]
          · have refused : ¬ Acceptable count.toNat frame := fun taken => crc taken.crc
            simp [receiveFrame, initialized, heard, short, crc, refused]
  · cases heard : client.delivered bus <;> simp [whole]

theorem candidate_acceptable {count : Nat} {bus : Exchange} {frame : Bytes}
    (taken : client.candidate count bus = some frame) : Acceptable count frame := by
  rw [candidate] at taken
  split at taken
  · split_ifs at taken with accepted
    exact Option.some.inj taken ▸ accepted.2
  · contradiction

/-- The candidates depend on how long the client waits and on nothing else in it. -/
theorem candidate_congr {after : ModbusClient}
    (same : after.responseTimeout = client.responseTimeout) (count : Nat) (bus : Exchange) :
    after.candidate count bus = client.candidate count bus := by
  simp [candidate, delivered, same]

/-- The attempts end with the first acceptable frame. -/
theorem attempts_outcome (initialized : client.initialized = true) (small : count.toNat ≤ 125)
    (table : Table) (slaveId : UInt8) (startAddr : Word) (data : Nat → Word)
    (bus : Nat → Exchange) (attempt left : Nat) :
    let result := client.attempts slaveId table.function startAddr count data bus attempt left
    let first := (List.range' attempt left).findSome? fun k => client.candidate count.toNat (bus k)
    result.success = first.isSome ∧ result.accepted = first ∧
      result.data = first.elim data fun frame => decodeWords frame count.toNat data := by
  induction left generalizing client data attempt with
  | zero => exact ⟨rfl, rfl, rfl⟩
  | succ left induction =>
      obtain ⟨success, accepted, decoded⟩ :=
        readOnce_outcome initialized small table slaveId startAddr data (bus attempt)
      obtain ⟨ready, same⟩ :=
        readOnce_client initialized slaveId table.function startAddr count data (bus attempt)
      rw [attempts, List.range'_succ, List.findSome?_cons]
      cases taken : client.candidate count.toNat (bus attempt) with
      | some frame =>
          rw [taken] at success accepted decoded
          have succeeded := success.trans Option.isSome_some
          rw [if_pos succeeded]
          exact ⟨success, accepted, decoded⟩
      | none =>
          rw [taken] at success decoded
          have later := induction ready data (attempt + 1)
          simp only [candidate_congr same] at later
          simp only [success, Option.isSome_none, Bool.false_eq_true, if_false, decoded,
            Option.elim_none]
          exact later

end ModbusClient

/-! ## Reads -/

/-- The number of attempts that a read may make. -/
def turns (maxAttempts : UInt8) : Nat := max 1 (min 10 maxAttempts.toNat)

/-- A read of a table. -/
def Table.read (table : Table) (client : ModbusClient) (slaveId : UInt8) (startAddr count : Word)
    (data : Nat → Word) (maxAttempts : UInt8) (bus : Nat → Exchange) : ReadResult :=
  match table with
  | holding => client.readHoldingRegisters slaveId startAddr count data maxAttempts bus
  | input => client.readInputRegisters slaveId startAddr count data maxAttempts bus

theorem clamp_eq_turns (maxAttempts : UInt8) :
    (let maxAttempts := if maxAttempts < 1 then 1 else maxAttempts
    if maxAttempts > 10 then 10 else maxAttempts).toNat = turns maxAttempts := by
  have ten : (10 : UInt8).toNat = 10 := rfl
  by_cases low : maxAttempts < 1
  · have none_left : maxAttempts.toNat < 1 := low
    simp only [if_pos low, turns]
    rw [if_neg (by decide), UInt8.toNat_one]
    omega
  · have some_left : ¬ maxAttempts.toNat < 1 := low
    simp only [if_neg low, turns]
    split
    next high =>
        have many : (10 : UInt8).toNat < maxAttempts.toNat := high
        omega
    next high =>
        have few : ¬ (10 : UInt8).toNat < maxAttempts.toNat := high
        omega

theorem Table.read_eq (table : Table) (client : ModbusClient) (slaveId : UInt8)
    (startAddr count : Word) (data : Nat → Word) (maxAttempts : UInt8) (bus : Nat → Exchange) :
    table.read client slaveId startAddr count data maxAttempts bus =
      client.readWithRetry slaveId table.function startAddr count data maxAttempts bus := by
  cases table <;> rfl

theorem ModbusClient.readWithRetry_eq {client : ModbusClient} {count : Word}
    (initialized : client.initialized = true) (positive : 0 < count.toNat)
    (small : count.toNat ≤ 125) (slaveId function : UInt8) (startAddr : Word)
    (data : Nat → Word) (maxAttempts : UInt8) (bus : Nat → Exchange) :
    client.readWithRetry slaveId function startAddr count data maxAttempts bus =
      client.attempts slaveId function startAddr count data bus 0 (turns maxAttempts) := by
  have some_registers : count ≠ 0 := by
    rintro rfl
    simp at positive
  have few : ¬ count > 125 := by
    rw [gt_iff_lt, BitVec.lt_def, Nat.not_lt]
    exact small
  rw [readWithRetry, if_neg (by simp only [initialized, some_registers, few]; decide)]
  exact congrArg (client.attempts slaveId function startAddr count data bus 0)
    (clamp_eq_turns maxAttempts)

/-- The frame answers the request and the array holds its registers. -/
structure Answers (slaveId function : UInt8) (count : Nat) (data : Nat → Word) (frame : Bytes) :
    Prop where
  crc : validateCRC frame = true
  slave : frame.getD 0 0 = slaveId
  code : frame.getD 1 0 = function
  byteCount : (frame.getD 2 0).toNat = 2 * count
  length : frame.length = 5 + 2 * count
  words : ∀ i < count, data i = word (frame.getD (3 + 2 * i) 0) (frame.getD (4 + 2 * i) 0)

theorem findSome?_range'_eq_some {β : Type*} {f : Nat → Option β} {b : β} {start count : Nat} :
    (List.range' start count).findSome? f = some b ↔
      ∃ k < count, f (start + k) = some b ∧ ∀ j < k, f (start + j) = none := by
  induction count generalizing start with
  | zero => simp
  | succ count induction =>
      rw [List.range'_succ, List.findSome?_cons]
      cases found : f start with
      | some first =>
          constructor
          · exact fun same => ⟨0, by omega, found.trans same, by simp⟩
          · rintro ⟨k, -, at_k, before⟩
            cases k with
            | zero => exact found.symm.trans at_k
            | succ k =>
                have nothing := before 0 (by omega)
                simp [found] at nothing
      | none =>
          rw [induction]
          constructor
          · rintro ⟨k, bound, at_k, before⟩
            refine ⟨k + 1, by omega, by rwa [Nat.add_right_comm] at at_k, fun j lower => ?_⟩
            cases j with
            | zero => exact found
            | succ j =>
                have nothing := before j (by omega)
                rwa [Nat.add_right_comm] at nothing
          · rintro ⟨k, bound, at_k, before⟩
            cases k with
            | zero => simp [found] at at_k
            | succ k =>
                refine ⟨k, by omega, by rwa [Nat.add_right_comm], fun j lower => ?_⟩
                have nothing := before (j + 1) (by omega)
                rwa [Nat.add_right_comm]

/-- A read that succeeds has an answer to its request, if and only if the first frame with a valid
checksum, no exception and the right byte count comes from the slave, for the function and without
more bytes. -/
theorem read_answers_iff {count : Word} (positive : 0 < count.toNat) (small : count.toNat ≤ 125)
    (client : ModbusClient) (table : Table) (slaveId : UInt8) (startAddr : Word)
    (data : Nat → Word) (maxAttempts : UInt8) (bus : Nat → Exchange) :
    let result := table.read client slaveId startAddr count data maxAttempts bus
    (result.success = true → ∃ frame, result.accepted = some frame ∧
        Answers slaveId table.function count.toNat result.data frame) ↔
      (client.initialized = true → ∀ k < turns maxAttempts,
        (∀ j < k, client.candidate count.toNat (bus j) = none) →
        ∀ frame, client.candidate count.toNat (bus k) = some frame →
          frame.getD 0 0 = slaveId ∧ frame.getD 1 0 = table.function ∧
            frame.length = 5 + 2 * count.toNat) := by
  intro result
  by_cases initialized : client.initialized = true
  · have read := client.readWithRetry_eq initialized positive small slaveId table.function startAddr
      data maxAttempts bus
    rw [← table.read_eq] at read
    obtain ⟨success, accepted, decoded⟩ := client.attempts_outcome initialized small table slaveId
      startAddr data bus 0 (turns maxAttempts)
    rw [← read] at success accepted decoded
    constructor
    · intro answers _ k bound before frame taken
      have first : (List.range' 0 (turns maxAttempts)).findSome?
          (fun k => client.candidate count.toNat (bus k)) = some frame :=
        findSome?_range'_eq_some.mpr ⟨k, bound, by simpa using taken, by simpa using before⟩
      rw [first] at success accepted
      obtain ⟨other, same, answer⟩ := answers success
      obtain rfl : frame = other := Option.some.inj (accepted.symm.trans same)
      exact ⟨answer.slave, answer.code, answer.length⟩
    · intro clean succeeded
      obtain ⟨frame, first⟩ := Option.isSome_iff_exists.mp (success.symm.trans succeeded)
      obtain ⟨k, bound, taken, before⟩ := findSome?_range'_eq_some.mp first
      obtain ⟨slave, code, length⟩ := clean initialized k bound (by simpa using before) frame
        (by simpa using taken)
      have acceptable := ModbusClient.candidate_acceptable taken
      refine ⟨frame, accepted.trans first,
        ⟨acceptable.crc, slave, code, acceptable.byteCount, length, fun i inside => ?_⟩⟩
      rw [decoded, first]
      simp only [Option.elim_some, decodeWords, if_pos inside]
      congr 2 <;> omega
  · have refused : result.success = false := by
      simp [result, table.read_eq, ModbusClient.readWithRetry, initialized]
    simp [refused, initialized]

/-- A frame with its checksum. -/
def withCRC (frame : Bytes) : Bytes :=
  frame ++ [lowByte (calculateCRC frame), highByte (calculateCRC frame)]

/-- A bus that takes the request, delivers a reply at once and then is silent. -/
def Exchange.prompt (reply : Bytes) : Exchange where
  txTime := 0
  written := 8
  rxTime := 0
  startTime := 0
  ticks := reply.map (fun byte => ⟨1, some byte, 1⟩) ++ [⟨20, none, 20⟩]
  failTime := 20
  failTime' := 20

/-- One register of slave 2, read from slave 2. -/
theorem read_answers_once :
    let client : ModbusClient := ⟨true, 1000, []⟩
    let bus := Exchange.prompt (withCRC [2, 3, 2, 0, 42])
    let result := Table.holding.read client 2 0 1 (fun _ => 0) 1 fun _ => bus
    ∃ frame, result.accepted = some frame ∧
      Answers 2 Table.holding.function (1 : Word).toNat result.data frame := by
  intro client bus
  refine (read_answers_iff (by decide) (by decide) client .holding 2 0 _ 1 _).mpr ?_
    (by decide +kernel)
  intro _ k _ _ frame taken
  have reply : client.candidate 1 bus = some (withCRC [2, 3, 2, 0, 42]) := by decide +kernel
  obtain rfl := Option.some.inj (reply.symm.trans taken)
  decide +kernel

/-- One register of slave 2, taken for a register of slave 1. -/
theorem read_stray_reply :
    let client : ModbusClient := ⟨true, 1000, []⟩
    let bus := Exchange.prompt (withCRC [2, 3, 2, 0, 42])
    let result := Table.holding.read client 1 0 1 (fun _ => 0) 1 fun _ => bus
    ¬ (result.success = true → ∃ frame, result.accepted = some frame ∧
        Answers 1 Table.holding.function (1 : Word).toNat result.data frame) := by
  intro client bus result answers
  obtain ⟨frame, accepted, answer⟩ := answers (by decide +kernel)
  have reply : result.accepted = some (withCRC [2, 3, 2, 0, 42]) := by decide +kernel
  obtain rfl := Option.some.inj (reply.symm.trans accepted)
  exact absurd answer.slave (by decide +kernel)

end ModbusBridge
