import ModbusBridge.Configuration.Config
import ModbusBridge.Library.StepSystem
import ModbusBridge.Modbus.Server

/-!
# What the client sends

The whole interface of the Modbus client, and what it puts on the wire over any sequence of calls:
requests to read, and nothing else.
-/

namespace ModbusBridge

/-! ## The interface -/

/-- `ModbusClient` with its serial line. -/
structure SerialClient extends ModbusClient where
  dePin : Int
  baudrate : UInt32
  parity : Int
  stopBits : Int
  dataBits : Int

/-- `MAX_READ_ATTEMPTS`. -/
def maxReadAttempts : UInt8 := 3

namespace SerialClient

/-- A call of a public method. `finish` is `end`. -/
inductive Call
  | begin (config : Config)
  | finish
  | isInitialized
  | isMAX485Connected
  | testConnection
  | testDeviceCommunication (slaveId : UInt8) (testData : Nat → Word) (bus : Nat → Exchange)
  | readHoldingRegisters (slaveId : UInt8) (startAddr count : Word) (data : Nat → Word)
      (maxAttempts : UInt8) (bus : Nat → Exchange)
  | readInputRegisters (slaveId : UInt8) (startAddr count : Word) (data : Nat → Word)
      (maxAttempts : UInt8) (bus : Nat → Exchange)
  | combineRegisters (high low : Word)
  | combineSignedRegisters (high low : Word)
  | applyScaling (rawValue : Word)
  | applyScaling32 (rawValue : BitVec 32)
  | getFrameLog
  | clearFrameLog

variable (lib : ArduinoJson) (config : Config)

/-- The constructor. The parity is `SERIAL_8N1`, which the Arduino core defines as 0x800001c in
`esp32-hal-uart.h`; `begin` sets another value before the first frame. -/
def create : SerialClient where
  initialized := false
  responseTimeout := 2000
  frameLog := []
  dePin := -1
  baudrate := 9600
  parity := 0x800001c
  stopBits := 1
  dataBits := 8

/-- `getBaudrateValue`. -/
def getBaudrateValue : UInt32 :=
  let configBaud := config.getInt lib (ascii "baudrate") 9600
  if configBaud = 9600 ∨ configBaud = 19200 ∨ configBaud = 38400 ∨ configBaud = 57600 ∨
      configBaud = 115200 then .ofBitVec (.ofInt 32 configBaud)
  else 9600

/-- `getParityValue`. -/
def getParityValue : Int :=
  let parityStr := toUpperCase (config.getString lib (ascii "parity") (ascii "N"))
  if parityStr = ascii "E" then 69 else if parityStr = ascii "O" then 79 else 78

/-- `getDataBitsValue`. -/
def getDataBitsValue : Int :=
  let configDataBits := config.getInt lib (ascii "data_bits") 8
  if configDataBits = 7 ∨ configDataBits = 8 then configDataBits else 8

/-- `begin`. -/
def begin (client : SerialClient) : SerialClient :=
  if client.initialized then client
  else
    let baudrate := getBaudrateValue lib config
    let parity := getParityValue lib config
    let stopBits := config.getInt lib (ascii "stop_bits") 1
    let dataBits := getDataBitsValue lib config
    let bitsPerByte : UInt32 :=
      .ofBitVec (.ofInt 32 (1 + dataBits + (if parity ≠ 78 then 1 else 0) + stopBits))
    let maxResponseTime := 256 * bitsPerByte * 1000 / baudrate
    { client with
      baudrate, parity, stopBits, dataBits
      dePin := config.getInt lib (ascii "rs485_de_re_pin") 4
      responseTimeout := maxResponseTime + 500
      initialized := true }

/-- `end`. -/
def finish (client : SerialClient) : SerialClient :=
  if client.initialized then { client with initialized := false } else client

/-- The part that the hardware checks look at. -/
def transceiver (client : SerialClient) : Transceiver := ⟨client.initialized, client.dePin⟩

/-- The client after a read, and the frames that the read has written. -/
def after (client : SerialClient) (result : ReadResult) : SerialClient × List Bytes :=
  ({ client with toModbusClient := result.client }, result.sent)

/-- `testDeviceCommunication`. -/
def testDeviceCommunication (client : SerialClient) (slaveId : UInt8) (testData : Nat → Word)
    (bus : Nat → Exchange) : SerialClient × List Bytes :=
  if !client.initialized then (client, [])
  else if !client.transceiver.isMAX485Connected then (client, [])
  else
    client.after
      (client.readHoldingRegisters slaveId 0x000C 3 testData maxReadAttempts bus)

/-- A call: the client afterwards and the frames given to `serial->write`. -/
def perform (client : SerialClient) : Call → SerialClient × List Bytes
  | .begin config => (client.begin lib config, [])
  | .finish => (client.finish, [])
  | .testDeviceCommunication slaveId testData bus =>
      client.testDeviceCommunication slaveId testData bus
  | .readHoldingRegisters slaveId startAddr count data maxAttempts bus =>
      client.after (client.readHoldingRegisters slaveId startAddr count data maxAttempts bus)
  | .readInputRegisters slaveId startAddr count data maxAttempts bus =>
      client.after (client.readInputRegisters slaveId startAddr count data maxAttempts bus)
  | .clearFrameLog => ({ client with frameLog := [] }, [])
  -- the others look at the client only, or at their arguments
  | .isInitialized | .isMAX485Connected | .testConnection | .combineRegisters _ _
  | .combineSignedRegisters _ _ | .applyScaling _ | .applyScaling32 _ | .getFrameLog =>
      (client, [])

end SerialClient

/-! ## Requests to read -/

/-- A frame that asks for 1 to 125 registers of one of the two tables. -/
structure ReadFrame (frame : Bytes) : Prop where
  length : frame.length = 8
  function : frame.getD 1 0 = 3 ∨ frame.getD 1 0 = 4
  some_words : 1 ≤ (word (frame.getD 4 0) (frame.getD 5 0)).toNat
  few_words : (word (frame.getD 4 0) (frame.getD 5 0)).toNat ≤ 125
  crcLow : frame.getD 6 0 = lowByte (calculateCRC (frame.take 6))
  crcHigh : frame.getD 7 0 = highByte (calculateCRC (frame.take 6))

theorem buildReadFrame_read (table : Table) (slaveId : UInt8) (startAddr : Word) {count : Word}
    (some_words : ¬ count = 0) (few_words : ¬ count > 125) :
    ReadFrame (buildReadFrame slaveId table.function startAddr count) := by
  have joined : word (highByte count) (lowByte count) = count := by
    rw [word_eq_join, highByte_eq_upper, lowByte_eq_lower, join_upper_lower]
  rw [buildReadFrame_eq]
  refine ⟨rfl, ?_, ?_, ?_, rfl, rfl⟩
  · cases table with
    | holding => exact .inl rfl
    | input => exact .inr rfl
  · change 1 ≤ (word (highByte count) (lowByte count)).toNat
    rw [joined]
    bv_omega
  · change (word (highByte count) (lowByte count)).toNat ≤ 125
    rw [joined]
    bv_omega

/-! ## Calls -/

namespace ModbusClient

theorem readOnce_sent_eq (client : ModbusClient) (slaveId function : UInt8)
    (startAddr count : Word) (data : Nat → Word) (bus : Exchange) :
    (client.readOnce slaveId function startAddr count data bus).sent =
      if client.initialized ∧ (buildReadFrame slaveId function startAddr count).length > 0 then
        [buildReadFrame slaveId function startAddr count] else [] := by
  rw [readOnce]
  dsimp only
  split
  · split <;> rfl
  · rfl

theorem readOnce_sent (client : ModbusClient) (slaveId function : UInt8) (startAddr count : Word)
    (data : Nat → Word) (bus : Exchange) :
    ∃ sends ≤ 1, (client.readOnce slaveId function startAddr count data bus).sent =
      List.replicate sends (buildReadFrame slaveId function startAddr count) := by
  rw [readOnce_sent_eq]
  split_ifs
  · exact ⟨1, le_refl 1, rfl⟩
  · exact ⟨0, Nat.zero_le 1, rfl⟩

/-- Every attempt sends the same frame, if any. -/
theorem attempts_sent (slaveId function : UInt8) (startAddr count : Word) (bus : Nat → Exchange)
    (left : Nat) (client : ModbusClient) (data : Nat → Word) (attempt : Nat) :
    ∃ sends ≤ left,
      (client.attempts slaveId function startAddr count data bus attempt left).sent =
        List.replicate sends (buildReadFrame slaveId function startAddr count) := by
  induction left generalizing client data attempt with
  | zero => exact ⟨0, le_refl 0, rfl⟩
  | succ left induction =>
      obtain ⟨first, few, sent⟩ :=
        client.readOnce_sent slaveId function startAddr count data (bus attempt)
      rw [attempts]
      dsimp only
      split_ifs
      · exact ⟨first, by omega, sent⟩
      · obtain ⟨rest, fewer, more⟩ := induction
          (client.readOnce slaveId function startAddr count data (bus attempt)).client
          (client.readOnce slaveId function startAddr count data (bus attempt)).data (attempt + 1)
        refine ⟨first + rest, by omega, ?_⟩
        rw [sent, more, List.replicate_append_replicate]

end ModbusClient

/-- What a call may send: requests to read, all the same, and no more than a limit. -/
structure Sends (limit : Nat) (sent : List Bytes) : Prop where
  few : sent.length ≤ limit
  same : ∀ frame ∈ sent, ∀ other ∈ sent, frame = other
  read : ∀ frame ∈ sent, ReadFrame frame

theorem Sends.nothing (limit : Nat) : Sends limit [] where
  few := Nat.zero_le limit
  same _ listed := absurd listed List.not_mem_nil
  read _ listed := absurd listed List.not_mem_nil

theorem Sends.replicate {sends limit : Nat} (few : sends ≤ limit) {frame : Bytes}
    (read : ReadFrame frame) : Sends limit (List.replicate sends frame) where
  few := by rwa [List.length_replicate]
  same _ listed _ other :=
    (List.eq_of_mem_replicate listed).trans (List.eq_of_mem_replicate other).symm
  read _ listed := List.eq_of_mem_replicate listed ▸ read

/-- The attempts that a caller gets. -/
def attemptLimit (maxAttempts : UInt8) : Nat := min (max maxAttempts.toNat 1) 10

theorem turns_eq_attemptLimit (maxAttempts : UInt8) :
    turns maxAttempts = attemptLimit maxAttempts := by
  rw [turns, attemptLimit]
  omega

theorem ModbusClient.readWithRetry_sends (client : ModbusClient) (slaveId : UInt8) (table : Table)
    (startAddr count : Word) (data : Nat → Word) (maxAttempts : UInt8) (bus : Nat → Exchange) :
    Sends (attemptLimit maxAttempts) (client.readWithRetry slaveId table.function startAddr count
      data maxAttempts bus).sent := by
  rw [readWithRetry]
  by_cases refused : (!client.initialized) = true ∨ count = 0 ∨ count > 125
  · rw [if_pos refused]
    exact .nothing _
  · rw [if_neg refused]
    simp only [not_or] at refused
    have clamped := (clamp_eq_turns maxAttempts).trans (turns_eq_attemptLimit maxAttempts)
    dsimp only at clamped ⊢
    rw [clamped]
    obtain ⟨sends, few, sent⟩ := attempts_sent slaveId table.function startAddr count bus
      (attemptLimit maxAttempts) client data 0
    exact sent ▸ .replicate few (buildReadFrame_read table slaveId startAddr refused.2.1
      refused.2.2)

namespace SerialClient

/-- How many frames a call may send. -/
def Call.limit : Call → Nat
  | .testDeviceCommunication .. => attemptLimit maxReadAttempts
  | .readHoldingRegisters _ _ _ _ maxAttempts _ | .readInputRegisters _ _ _ _ maxAttempts _ =>
      attemptLimit maxAttempts
  | _ => 0

variable (lib : ArduinoJson)

theorem perform_sends (client : SerialClient) (call : Call) :
    Sends call.limit (client.perform lib call).2 := by
  cases call with
  | testDeviceCommunication slaveId testData bus =>
      unfold perform testDeviceCommunication
      dsimp only
      split_ifs
      · exact .nothing _
      · exact .nothing _
      · exact client.readWithRetry_sends slaveId .holding ..
  | readHoldingRegisters slaveId startAddr count data maxAttempts bus =>
      exact client.readWithRetry_sends slaveId .holding ..
  | readInputRegisters slaveId startAddr count data maxAttempts bus =>
      exact client.readWithRetry_sends slaveId .input ..
  | _ => exact .nothing _

/-! ## Runs -/

/-- The client and everything that it has written. -/
structure Wire where
  client : SerialClient
  sent : List Bytes

/-- Calls, one after the other. -/
def system : StepSystem Wire Call where
  start := ⟨create, []⟩
  next wire call :=
    let performed := wire.client.perform lib call
    some ⟨performed.1, wire.sent ++ performed.2⟩

/-- Over any sequence of calls, the client writes requests to read only; and one call writes a few
of them at most, which are all the same. -/
theorem writes_only_reads {wire : Wire}
    (reach : (system lib).Reaches (fun _ _ => True) wire) :
    (∀ frame ∈ wire.sent, ReadFrame frame) ∧
      ∀ call, Sends call.limit (wire.client.perform lib call).2 := by
  refine ⟨?_, wire.client.perform_sends lib⟩
  induction reach with
  | start => exact fun _ listed => absurd listed List.not_mem_nil
  | @step before after call reach allowed moves induction =>
      obtain rfl := Option.some.inj moves
      intro frame listed
      exact (List.mem_append.mp listed).elim (induction frame)
        ((before.client.perform_sends lib call).read frame)

/-- A bus that takes all bytes of a request and returns none. -/
def silent : Exchange where
  txTime := 0
  written := 8
  rxTime := 1
  startTime := 1
  ticks := []
  failTime := 3000
  failTime' := 3000

theorem writes_only_reads_silent : ∃ wire : Wire,
    (system (flatJson [])).Reaches (fun _ _ => True) wire ∧ wire.sent.length = 3 ∧
      (∀ frame ∈ wire.sent, ReadFrame frame) ∧
      ∀ call, Sends call.limit (wire.client.perform (flatJson []) call).2 := by
  have fresh : (system (flatJson [])).Reaches (fun _ _ => True) _ := .start
  obtain ⟨wire, reach, three⟩ := fresh.test
    [.begin .initial, .readInputRegisters 1 0 4 (fun _ => 0) 3 fun _ => silent]
    (fun wire => wire.sent.length = 3) (by decide +kernel)
  exact ⟨wire, reach, of_decide_eq_true three, writes_only_reads (flatJson []) reach⟩

end SerialClient

end ModbusBridge
