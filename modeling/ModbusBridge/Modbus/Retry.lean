import ModbusBridge.Library.Fallible
import ModbusBridge.Modbus.ReadOnly

/-!
# Reads that fail and reads that succeed

A read ends with the first attempt whose reply is acceptable and takes its words from that reply. If
no attempt gets one, the caller's array is as it was. No check of a reply looks behind its end.
-/

namespace ModbusBridge

/-! ## Indices -/

/-- Bytes of a frame, first to last, if it is long enough. -/
def bytesChecked (frame : Bytes) (length : Nat) : Option Bytes :=
  (List.range length).mapM fun i => frame[i]?

/-- `validateCRC`. There is no result when an index is not below the length. -/
def validateCRCChecked (frame : Bytes) : Option Bool :=
  if frame.length < 3 then some false
  else do
    let low ← frame[frame.length - 2]?
    let high ← frame[frame.length - 1]?
    let data ← bytesChecked frame (frame.length - 2)
    some (word high low == calculateCRC data)

/-- One turn of the loop of `parseReadResponse`. -/
def decodeChecked (response : Bytes) (data : Nat → Word) (i : Nat) : Option (Nat → Word) := do
  let high ← response[3 + i * 2]?
  let low ← response[3 + i * 2 + 1]?
  some (Function.update data i (word high low))

/-- `parseReadResponse`. There is no result when an index is not below the length. -/
def parseReadResponseChecked (response : Bytes) (expectedCount : Word) (data : Nat → Word) :
    Option (Bool × (Nat → Word)) :=
  if response.length < 5 then some (false, data)
  else do
    let _slaveId ← response[0]?
    let function ← response[1]?
    if function &&& 0x80 ≠ 0 then do
      let _exceptionCode ← response[2]?
      some (false, data)
    else do
      let byteCount ← response[2]?
      let expectedBytes := expectedCount * 2
      if byteCount.toBitVec.setWidth 16 ≠ expectedBytes then some (false, data)
      else if response.length < 3 + byteCount.toNat + 2 then some (false, data)
      else do
        let decoded ← (List.range expectedCount.toNat).foldlM (decodeChecked response) data
        some (true, decoded)

theorem getElem?_eq_getD {frame : Bytes} {i : Nat} (inside : i < frame.length) :
    frame[i]? = some (frame.getD i 0) := by
  rw [List.getD_eq_getElem _ _ inside, List.getElem?_eq_getElem]

theorem bytesChecked_eq {frame : Bytes} {length : Nat} (inside : length ≤ frame.length) :
    bytesChecked frame length = some (frame.take length) := by
  have each : ∀ i ∈ List.range length, frame[i]? = some (frame.getD i 0) := fun i listed =>
    getElem?_eq_getD ((List.mem_range.mp listed).trans_le inside)
  rw [bytesChecked, Fallible.mapM_eq_some each]
  congr 1
  apply List.ext_getElem
  · simp [inside]
  · intro i left right
    rw [List.length_map, List.length_range] at left
    rw [List.getElem_map, List.getElem_range, List.getElem_take,
      List.getD_eq_getElem _ _ (by omega)]

theorem validateCRCChecked_eq (frame : Bytes) :
    validateCRCChecked frame = some (validateCRC frame) := by
  rw [validateCRCChecked, validateCRC]
  split
  · rfl
  next long =>
      rw [getElem?_eq_getD (by omega), getElem?_eq_getD (by omega), bytesChecked_eq (by omega)]
      rfl

/-- The loop decodes one more word in each turn. -/
theorem decodeChecked_foldlM {response : Bytes} {count : Nat}
    (long : 3 + 2 * count ≤ response.length) (data : Nat → Word) :
    (List.range count).foldlM (decodeChecked response) data =
      some (decodeWords response count data) := by
  induction count with
  | zero => rfl
  | succ count induction =>
      rw [List.range_succ, List.foldlM_append, induction (by omega), Option.bind_eq_bind,
        Option.bind_some, List.foldlM_cons, decodeChecked, getElem?_eq_getD (by omega),
        getElem?_eq_getD (by omega)]
      refine congrArg some (funext fun i => ?_)
      by_cases last : i = count
      · subst last
        rw [Function.update_self, decodeWords, if_pos (Nat.lt_succ_self i)]
      · rw [Function.update_of_ne last, decodeWords, decodeWords]
        simp only [show i < count + 1 ↔ i < count by omega]

theorem parseReadResponseChecked_eq {count : Word} (small : count.toNat ≤ 125) (response : Bytes)
    (data : Nat → Word) :
    parseReadResponseChecked response count data =
      some (parseReadResponse response count data) := by
  rw [parseReadResponseChecked, parseReadResponse]
  split
  · rfl
  next some_bytes =>
      rw [getElem?_eq_getD (by omega), getElem?_eq_getD (by omega), getElem?_eq_getD (by omega)]
      simp only [Option.bind_eq_bind, Option.bind_some]
      split_ifs with exception bytes long
      · rfl
      · rfl
      · rfl
      · rw [not_not, setWidth_eq_double_iff small] at bytes
        rw [decodeChecked_foldlM (by omega)]
        rfl

namespace ModbusClient

variable (client : ModbusClient) (slaveId function : UInt8) (startAddr count : Word)

/-- `receiveFrame`. There is no result when an index is not below the received length. -/
def receiveFrameChecked (bus : Exchange) : Option (Option Bytes) :=
  if !client.initialized then some none
  else
    match client.delivered bus with
    | none => some none
    | some buffer =>
        if buffer.length = 2 then do
          -- they are in the message about electrical noise
          let _first ← buffer[0]?
          let _second ← buffer[1]?
          some none
        else if buffer.length < 5 then some none
        else do
          let valid ← validateCRCChecked buffer
          some (if valid then some buffer else none)

/-- `readOnce`. There is no result when an index is not below the received length. -/
def readOnceChecked (data : Nat → Word) (bus : Exchange) : Option ReadResult :=
  let frame := buildReadFrame slaveId function startAddr count
  let result := client.readOnce slaveId function startAddr count data bus
  if frame.length > 0 ∧ client.sendFrame frame bus.written then do
    match ← client.receiveFrameChecked bus with
    | some response =>
        let _parsed ← parseReadResponseChecked response count data
        if response.length ≥ 3 then do
          let _function ← response[1]?
          let _exceptionCode ← response[2]?
          let _hexDump ← bytesChecked response response.length
          some result
        else do
          let _hexDump ← bytesChecked response response.length
          some result
    | none => some result
  else some result

/-- The loop of `readWithRetry`. -/
def attemptsChecked (client : ModbusClient) (data : Nat → Word) (bus : Nat → Exchange)
    (attempt : Nat) : Nat → Option ReadResult
  | 0 => some (client.attempts slaveId function startAddr count data bus attempt 0)
  | left + 1 => do
      let result ← client.readOnceChecked slaveId function startAddr count data (bus attempt)
      if result.success then some result
      else do
        let rest ← attemptsChecked result.client result.data bus (attempt + 1) left
        some { rest with sent := result.sent ++ rest.sent }

/-- `readWithRetry`. There is no result when an index is not below the received length. -/
def readWithRetryChecked (data : Nat → Word) (maxAttempts : UInt8) (bus : Nat → Exchange) :
    Option ReadResult :=
  if !client.initialized ∨ count = 0 ∨ count > 125 then
    some { success := false, client, data, sent := [], accepted := none }
  else
    let maxAttempts := if maxAttempts < 1 then 1 else maxAttempts
    let maxAttempts := if maxAttempts > 10 then 10 else maxAttempts
    attemptsChecked slaveId function startAddr count client data bus 0 maxAttempts.toNat

theorem receiveFrameChecked_eq (bus : Exchange) :
    client.receiveFrameChecked bus = some (client.receiveFrame bus) := by
  rw [receiveFrameChecked, receiveFrame]
  split
  · rfl
  · cases client.delivered bus with
    | none => rfl
    | some buffer =>
        dsimp only
        by_cases two : buffer.length = 2
        · rw [if_pos two, if_pos (by omega), getElem?_eq_getD (by omega),
            getElem?_eq_getD (by omega)]
          rfl
        · rw [if_neg two, validateCRCChecked_eq]
          split
          · rfl
          · cases validateCRC buffer <;> rfl

variable {client count} in
theorem readOnceChecked_eq (small : count.toNat ≤ 125) (data : Nat → Word) (bus : Exchange) :
    client.readOnceChecked slaveId function startAddr count data bus =
      some (client.readOnce slaveId function startAddr count data bus) := by
  rw [readOnceChecked]
  split
  · rw [receiveFrameChecked_eq, Option.bind_eq_bind, Option.bind_some]
    cases client.receiveFrame bus with
    | none => rfl
    | some response =>
        dsimp only
        rw [parseReadResponseChecked_eq small, bytesChecked_eq (le_refl _)]
        split
        next some_bytes =>
            rw [getElem?_eq_getD (by omega), getElem?_eq_getD (by omega)]
            rfl
        next => rfl
  · rfl

variable {count} in
theorem attemptsChecked_eq (small : count.toNat ≤ 125) (bus : Nat → Exchange) (left : Nat)
    (client : ModbusClient) (data : Nat → Word) (attempt : Nat) :
    attemptsChecked slaveId function startAddr count client data bus attempt left =
      some (client.attempts slaveId function startAddr count data bus attempt left) := by
  induction left generalizing client data attempt with
  | zero => rfl
  | succ left induction =>
      rw [attemptsChecked, readOnceChecked_eq slaveId function startAddr small, attempts]
      simp only [Option.bind_eq_bind, Option.bind_some, induction]
      split <;> rfl

/-- No read of a whole call is behind the bytes received. -/
theorem readWithRetryChecked_eq (data : Nat → Word) (maxAttempts : UInt8) (bus : Nat → Exchange) :
    client.readWithRetryChecked slaveId function startAddr count data maxAttempts bus =
      some (client.readWithRetry slaveId function startAddr count data maxAttempts bus) := by
  rw [readWithRetryChecked, readWithRetry]
  split
  · rfl
  next accepted =>
      simp only [not_or] at accepted
      exact attemptsChecked_eq slaveId function startAddr (by bv_omega) bus _ client data 0

/-! ## Attempts -/

variable {client count}

/-- The attempts end with the first that has an acceptable reply. -/
theorem attempts_stop (initialized : client.initialized = true) (small : count.toNat ≤ 125)
    (table : Table) (data : Nat → Word) (bus : Nat → Exchange) (attempt left : Nat) :
    let request := buildReadFrame slaveId table.function startAddr count
    let result := client.attempts slaveId table.function startAddr count data bus attempt left
    let candidate := fun k => client.candidate count.toNat (bus (attempt + k))
    (∀ k < left, (∀ j < k, candidate j = none) → (candidate k).isSome = true →
        result.sent = List.replicate (k + 1) request) ∧
      ((∀ k < left, candidate k = none) → result.sent = List.replicate left request) := by
  induction left generalizing client data attempt with
  | zero => exact ⟨fun k none_left => absurd none_left (Nat.not_lt_zero k), fun _ => rfl⟩
  | succ left induction =>
      intro request result candidate
      have outcome := readOnce_outcome initialized small table slaveId startAddr data (bus attempt)
      obtain ⟨ready, same⟩ :=
        readOnce_client initialized slaveId table.function startAddr count data (bus attempt)
      have first :=
        client.readOnce_sent_eq slaveId table.function startAddr count data (bus attempt)
      rw [if_pos ⟨initialized, by rw [buildReadFrame_length]; decide⟩] at first
      have unfolded : result = _ := attempts.eq_2 ..
      generalize client.readOnce slaveId table.function startAddr count data (bus attempt) = once
        at outcome ready same first unfolded
      have later := induction ready once.data (attempt + 1)
      simp only [candidate_congr same, Nat.add_right_comm attempt 1] at later
      have stops : (candidate 0).isSome = true → result.sent = [request] := by
        intro taken
        rw [unfolded, if_pos (outcome.1.trans taken)]
        exact first
      have goesOn : candidate 0 = none → result.sent = request ::
          (once.client.attempts slaveId table.function startAddr count once.data bus (attempt + 1)
            left).sent := by
        intro refused
        have failed : once.success = false := outcome.1.trans (congrArg Option.isSome refused)
        rw [unfolded, if_neg (by rw [failed]; exact Bool.false_ne_true)]
        exact congrArg (· ++ _) first
      constructor
      · intro k few before taken
        cases k with
        | zero => exact stops taken
        | succ k =>
            rw [goesOn (before 0 (by omega)), later.1 k (by omega)
              (fun j lower => before (j + 1) (by omega)) taken]
            rfl
      · intro none_taken
        rw [goesOn (none_taken 0 (by omega)),
          later.2 fun k few => none_taken (k + 1) (by omega)]
        rfl

variable (client count)

/-- The attempts of a read: none without a serial line or for a count that is refused. -/
def attemptsAllowed (maxAttempts : UInt8) : Nat :=
  if client.initialized = true ∧ 0 < count.toNat ∧ count.toNat ≤ 125 then attemptLimit maxAttempts
  else 0

variable {client count}

theorem readWithRetry_of_allowed
    (allowed : client.initialized = true ∧ 0 < count.toNat ∧ count.toNat ≤ 125) (slaveId : UInt8)
    (table : Table) (startAddr : Word) (data : Nat → Word) (maxAttempts : UInt8)
    (bus : Nat → Exchange) :
    client.readWithRetry slaveId table.function startAddr count data maxAttempts bus =
      client.attempts slaveId table.function startAddr count data bus 0
        (client.attemptsAllowed count maxAttempts) := by
  obtain ⟨initialized, positive, small⟩ := allowed
  rw [client.readWithRetry_eq initialized positive small, turns_eq_attemptLimit, attemptsAllowed,
    if_pos ⟨initialized, positive, small⟩]

theorem readWithRetry_of_not_allowed
    (refused : ¬ (client.initialized = true ∧ 0 < count.toNat ∧ count.toNat ≤ 125))
    (slaveId : UInt8) (table : Table) (startAddr : Word) (data : Nat → Word) (maxAttempts : UInt8)
    (bus : Nat → Exchange) :
    client.readWithRetry slaveId table.function startAddr count data maxAttempts bus =
      ⟨false, client, data, [], none⟩ := by
  rw [readWithRetry, if_pos]
  by_contra accepted
  simp only [not_or] at accepted
  exact refused ⟨by simpa using accepted.1, by bv_omega, by bv_omega⟩

/-- The first acceptable reply among the attempts. -/
theorem attempts_taken (initialized : client.initialized = true) (small : count.toNat ≤ 125)
    (slaveId : UInt8) (table : Table) (startAddr : Word) (data : Nat → Word)
    (bus : Nat → Exchange) {limit k : Nat} (few : k < limit)
    (before : ∀ j < k, client.candidate count.toNat (bus j) = none) {frame : Bytes}
    (taken : client.candidate count.toNat (bus k) = some frame) :
    let result := client.attempts slaveId table.function startAddr count data bus 0 limit
    result.success = true ∧
      result.sent = List.replicate (k + 1) (buildReadFrame slaveId table.function startAddr count) ∧
      (∀ i < count.toNat,
        result.data i = word (frame.getD (3 + 2 * i) 0) (frame.getD (4 + 2 * i) 0)) ∧
      ∀ i, count.toNat ≤ i → result.data i = data i := by
  intro result
  obtain ⟨success, -, decoded⟩ :=
    client.attempts_outcome initialized small table slaveId startAddr data bus 0 limit
  obtain ⟨stops, -⟩ :=
    client.attempts_stop slaveId startAddr initialized small table data bus 0 limit
  have first : (List.range' 0 limit).findSome? (fun k => client.candidate count.toNat (bus k)) =
      some frame :=
    findSome?_range'_eq_some.mpr ⟨k, few, by simpa using taken, by simpa using before⟩
  rw [first] at success decoded
  simp only [Nat.zero_add] at stops
  refine ⟨success, stops k few before (Option.isSome_iff_exists.mpr ⟨frame, taken⟩),
    fun i inside => ?_, fun i beyond => ?_⟩
  · rw [decoded, Option.elim_some, decodeWords, if_pos inside]
    congr 2 <;> omega
  · rw [decoded, Option.elim_some, decodeWords, if_neg (by omega)]

/-- Attempts without an acceptable reply. -/
theorem attempts_exhausted (initialized : client.initialized = true) (small : count.toNat ≤ 125)
    (slaveId : UInt8) (table : Table) (startAddr : Word) (data : Nat → Word)
    (bus : Nat → Exchange) {limit : Nat}
    (none_taken : ∀ k < limit, client.candidate count.toNat (bus k) = none) :
    let result := client.attempts slaveId table.function startAddr count data bus 0 limit
    result.success = false ∧ result.data = data ∧
      result.sent =
        List.replicate limit (buildReadFrame slaveId table.function startAddr count) := by
  intro result
  obtain ⟨success, -, decoded⟩ :=
    client.attempts_outcome initialized small table slaveId startAddr data bus 0 limit
  obtain ⟨-, exhausted⟩ :=
    client.attempts_stop slaveId startAddr initialized small table data bus 0 limit
  have nothing : (List.range' 0 limit).findSome?
      (fun k => client.candidate count.toNat (bus k)) = none :=
    List.findSome?_eq_none_iff.mpr fun k listed =>
      none_taken k (by simpa using List.mem_range'.mp listed)
  rw [nothing] at success decoded
  simp only [Nat.zero_add] at exhausted
  exact ⟨success, decoded, exhausted none_taken⟩

/-- A read takes the words of the first acceptable reply and stops there. Without one it changes
nothing. No index of a reply is behind the bytes received. -/
theorem readWithRetry_exact (client : ModbusClient) (slaveId : UInt8) (table : Table)
    (startAddr count : Word) (data : Nat → Word) (maxAttempts : UInt8) (bus : Nat → Exchange) :
    let request := buildReadFrame slaveId table.function startAddr count
    let result :=
      client.readWithRetry slaveId table.function startAddr count data maxAttempts bus
    let limit := client.attemptsAllowed count maxAttempts
    let candidate := fun k => client.candidate count.toNat (bus k)
    client.readWithRetryChecked slaveId table.function startAddr count data maxAttempts bus =
        some result ∧
      (∀ k < limit, (∀ j < k, candidate j = none) → ∀ frame, candidate k = some frame →
        result.success = true ∧ result.sent = List.replicate (k + 1) request ∧
          (∀ i < count.toNat,
            result.data i = word (frame.getD (3 + 2 * i) 0) (frame.getD (4 + 2 * i) 0)) ∧
          ∀ i, count.toNat ≤ i → result.data i = data i) ∧
      ((∀ k < limit, candidate k = none) →
        result.success = false ∧ result.data = data ∧
          result.sent = List.replicate limit request) := by
  intro request result limit candidate
  refine ⟨client.readWithRetryChecked_eq slaveId table.function startAddr count data maxAttempts
    bus, ?_⟩
  by_cases allowed : client.initialized = true ∧ 0 < count.toNat ∧ count.toNat ≤ 125
  · have read : result = _ := readWithRetry_of_allowed allowed slaveId table startAddr data
      maxAttempts bus
    rw [read]
    exact ⟨fun k few before frame taken =>
        attempts_taken allowed.1 allowed.2.2 slaveId table startAddr data bus few before taken,
      attempts_exhausted allowed.1 allowed.2.2 slaveId table startAddr data bus⟩
  · have none_left : limit = 0 := if_neg allowed
    have read : result = _ := readWithRetry_of_not_allowed allowed slaveId table startAddr data
      maxAttempts bus
    rw [none_left, read]
    exact ⟨fun k few => absurd few (Nat.not_lt_zero k), fun _ => ⟨rfl, rfl, rfl⟩⟩

/-- A slave that keeps silent at first. -/
theorem readWithRetry_exact_twice :
    let client : ModbusClient := ⟨true, 1000, []⟩
    let bus := fun k =>
      if k = 0 then SerialClient.silent else Exchange.prompt (withCRC [2, 3, 2, 0, 42])
    let result := client.readWithRetry 2 3 0 1 (fun _ => 7) 3 bus
    result.success = true ∧ result.sent.length = 2 ∧ result.data 0 = 42 ∧ result.data 1 = 7 := by
  intro client bus result
  have nothing : ∀ j < 1, client.candidate 1 (bus j) = none := by decide +kernel
  obtain ⟨success, sent, words, others⟩ :=
    (client.readWithRetry_exact 2 .holding 0 1 (fun _ => 7) 3 bus).2.1 1 (by decide) nothing
      (withCRC [2, 3, 2, 0, 42]) (by decide +kernel)
  refine ⟨success, (congrArg List.length sent).trans (by simp), ?_, others 1 (by decide)⟩
  exact (words 0 (by decide)).trans (by decide +kernel)

end ModbusClient

end ModbusBridge
