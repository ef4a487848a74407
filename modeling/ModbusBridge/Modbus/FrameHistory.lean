import Mathlib.Algebra.Group.Even
import ModbusBridge.Library.BoundedLog
import ModbusBridge.Modbus.ReadOnly

/-!
# The frame log as a history of the bus

The log holds the transactions that went out last, each as a request and the reply to it. A
transaction is logged when its request has gone out as a whole, whatever comes back.
-/

namespace ModbusBridge

/-! ## Transactions -/

/-- A transaction whose request has gone out. -/
structure Transaction where
  slaveId : UInt8
  function : UInt8
  startAddr : Word
  count : Word
  bus : Exchange
  /-- What `receiveFrame` has received. -/
  reply : Option Bytes
  /-- What `readOnce` has returned. -/
  success : Bool

namespace Transaction

variable (transaction : Transaction)

/-- The entry of the request. -/
def txEntry : ModbusFrameLog where
  timestamp := transaction.bus.txTime
  isTx := true
  slaveId := transaction.slaveId
  functionCode := transaction.function
  startAddr := transaction.startAddr
  count := transaction.count
  success := true
  exceptionCode := 0
  hexDump := bytesToHex (buildReadFrame transaction.slaveId transaction.function
    transaction.startAddr transaction.count)
  responseTimeMs := 0

/-- The exception code of a reply. -/
def exceptionCode (reply : Bytes) : UInt8 :=
  let exception : Bool := reply.length ≥ 3 ∧ reply.getD 1 0 &&& 0x80 ≠ 0
  if exception then reply.getD 2 0 else 0

/-- The entry of the reply, or of its absence. -/
def rxEntry : ModbusFrameLog where
  timestamp := if transaction.reply.isSome then transaction.bus.rxTime else transaction.bus.failTime
  isTx := false
  slaveId := transaction.slaveId
  functionCode := transaction.function
  startAddr := transaction.startAddr
  count := transaction.count
  success := transaction.success
  exceptionCode := (transaction.reply.map exceptionCode).getD 0
  hexDump := (transaction.reply.map bytesToHex).getD (ascii "TIMEOUT")
  responseTimeMs :=
    (if transaction.reply.isSome then transaction.bus.rxTime else transaction.bus.failTime') -
      transaction.bus.txTime

/-- The entries of a transaction, in the order of the log. -/
def entries : List ModbusFrameLog := [transaction.txEntry, transaction.rxEntry]

/-- Two entries that tell of the transaction. -/
structure Told (tx rx : ModbusFrameLog) : Prop where
  outward : tx.isTx = true
  inward : rx.isTx = false
  slaveId : tx.slaveId = transaction.slaveId ∧ rx.slaveId = transaction.slaveId
  functionCode : tx.functionCode = transaction.function ∧ rx.functionCode = transaction.function
  startAddr : tx.startAddr = transaction.startAddr ∧ rx.startAddr = transaction.startAddr
  count : tx.count = transaction.count ∧ rx.count = transaction.count
  success : rx.success = transaction.success

theorem told : transaction.Told transaction.txEntry transaction.rxEntry :=
  ⟨rfl, rfl, ⟨rfl, rfl⟩, ⟨rfl, rfl⟩, ⟨rfl, rfl⟩, ⟨rfl, rfl⟩, rfl⟩

end Transaction

namespace ModbusClient

variable (client : ModbusClient) (slaveId function : UInt8) (startAddr count : Word)

/-- The transaction of `readOnce`, if its request goes out. -/
def readOnceTransmitted (data : Nat → Word) (bus : Exchange) : List Transaction :=
  if client.sendFrame (buildReadFrame slaveId function startAddr count) bus.written then
    [{ slaveId, function, startAddr, count, bus, reply := client.receiveFrame bus
       success := (client.readOnce slaveId function startAddr count data bus).success }]
  else []

/-- The transactions of the loop of `readWithRetry`. -/
def attemptsTransmitted (client : ModbusClient) (data : Nat → Word) (bus : Nat → Exchange)
    (attempt : Nat) : Nat → List Transaction
  | 0 => []
  | left + 1 =>
      let result := client.readOnce slaveId function startAddr count data (bus attempt)
      client.readOnceTransmitted slaveId function startAddr count data (bus attempt) ++
        if result.success then []
        else attemptsTransmitted result.client result.data bus (attempt + 1) left

/-- The transactions of `readWithRetry`. -/
def readWithRetryTransmitted (data : Nat → Word) (maxAttempts : UInt8) (bus : Nat → Exchange) :
    List Transaction :=
  if !client.initialized ∨ count = 0 ∨ count > 125 then []
  else
    let maxAttempts := if maxAttempts < 1 then 1 else maxAttempts
    let maxAttempts := if maxAttempts > 10 then 10 else maxAttempts
    attemptsTransmitted slaveId function startAddr count client data bus 0 maxAttempts.toNat

/-- The client after some more entries. -/
def logged (entries : List ModbusFrameLog) : ModbusClient :=
  { client with frameLog := entries.foldl (BoundedLog.push frameLogSize) client.frameLog }

theorem logged_nil : client.logged [] = client := rfl

theorem logged_append (first second : List ModbusFrameLog) :
    client.logged (first ++ second) = (client.logged first).logged second := by
  simp only [logged, List.foldl_append]

/-- One transaction logs its two entries; without a request sent it leaves no trace. -/
theorem readOnce_logged (data : Nat → Word) (bus : Exchange) :
    (client.readOnce slaveId function startAddr count data bus).client =
      client.logged ((client.readOnceTransmitted slaveId function startAddr count data
        bus).flatMap Transaction.entries) := by
  rw [readOnceTransmitted]
  by_cases sent :
      client.sendFrame (buildReadFrame slaveId function startAddr count) bus.written = true
  · have some_bytes : (buildReadFrame slaveId function startAddr count).length > 0 := by
      rw [sendFrame] at sent
      split_ifs at sent with ready empty
      omega
    rw [if_pos sent, List.flatMap_singleton, readOnce]
    dsimp only
    rw [if_pos ⟨some_bytes, sent⟩]
    have later : ∀ entry, (client.logFrame entry).receiveFrame bus = client.receiveFrame bus :=
      fun _ => rfl
    rw [later]
    cases client.receiveFrame bus with
    | none => rfl
    | some reply => rfl
  · rw [if_neg sent, readOnce, if_neg fun both => sent both.2]
    rfl

theorem attempts_logged (client : ModbusClient) (data : Nat → Word) (bus : Nat → Exchange)
    (attempt left : Nat) :
    (client.attempts slaveId function startAddr count data bus attempt left).client =
      client.logged ((attemptsTransmitted slaveId function startAddr count client data bus attempt
        left).flatMap Transaction.entries) := by
  induction left generalizing client data attempt with
  | zero => rfl
  | succ left induction =>
      have first := client.readOnce_logged slaveId function startAddr count data (bus attempt)
      rw [attempts, attemptsTransmitted]
      dsimp only
      split_ifs
      · rw [List.append_nil, first]
      · rw [induction, List.flatMap_append, logged_append, ← first]

theorem readWithRetry_logged (data : Nat → Word) (maxAttempts : UInt8) (bus : Nat → Exchange) :
    (client.readWithRetry slaveId function startAddr count data maxAttempts bus).client =
      client.logged ((client.readWithRetryTransmitted slaveId function startAddr count data
        maxAttempts bus).flatMap Transaction.entries) := by
  rw [readWithRetry, readWithRetryTransmitted]
  by_cases refused : (!client.initialized) = true ∨ count = 0 ∨ count > 125
  · rw [if_pos refused, if_pos refused]
    rfl
  · rw [if_neg refused, if_neg refused]
    exact attempts_logged ..

end ModbusClient

/-! ## Calls -/

namespace SerialClient

/-- The transactions of a call. -/
def transmitted (client : SerialClient) : Call → List Transaction
  | .testDeviceCommunication slaveId testData bus =>
      if !client.initialized ∨ !client.transceiver.isMAX485Connected then []
      else
        client.readWithRetryTransmitted slaveId fcReadHoldingRegisters 0x000C 3 testData
          maxReadAttempts bus
  | .readHoldingRegisters slaveId startAddr count data maxAttempts bus =>
      client.readWithRetryTransmitted slaveId fcReadHoldingRegisters startAddr count data
        maxAttempts bus
  | .readInputRegisters slaveId startAddr count data maxAttempts bus =>
      client.readWithRetryTransmitted slaveId fcReadInputRegisters startAddr count data
        maxAttempts bus
  | _ => []

/-- Every call but one adds its transactions to the log. -/
theorem perform_frameLog (lib : ArduinoJson) (client : SerialClient) {call : Call}
    (keeps : call ≠ .clearFrameLog) :
    (client.perform lib call).1.frameLog =
      (client.toModbusClient.logged
        ((client.transmitted call).flatMap Transaction.entries)).frameLog := by
  cases call with
  | begin config =>
      rw [perform, begin]
      split_ifs <;> rfl
  | finish =>
      rw [perform, finish]
      split_ifs <;> rfl
  | testDeviceCommunication slaveId testData bus =>
      rw [perform, testDeviceCommunication, transmitted]
      by_cases unready : (!client.initialized) = true
      · rw [if_pos unready, if_pos (.inl unready)]
        rfl
      · by_cases unplugged : (!client.transceiver.isMAX485Connected) = true
        · rw [if_neg unready, if_pos unplugged, if_pos (.inr unplugged)]
          rfl
        · rw [if_neg unready, if_neg unplugged, if_neg (not_or.mpr ⟨unready, unplugged⟩)]
          exact congrArg ModbusClient.frameLog (ModbusClient.readWithRetry_logged ..)
  | readHoldingRegisters slaveId startAddr count data maxAttempts bus =>
      exact congrArg ModbusClient.frameLog (ModbusClient.readWithRetry_logged ..)
  | readInputRegisters slaveId startAddr count data maxAttempts bus =>
      exact congrArg ModbusClient.frameLog (ModbusClient.readWithRetry_logged ..)
  | clearFrameLog => exact absurd rfl keeps
  | _ => rfl

/-! ## Runs -/

/-- The client and the transactions since the log was cleared last. -/
structure Watched where
  client : SerialClient
  history : List Transaction

/-- Calls, one after the other. -/
def watched (lib : ArduinoJson) : StepSystem Watched Call where
  start := ⟨create, []⟩
  next state call :=
    let history :=
      match call with
      | .clearFrameLog => []
      | call => state.history ++ state.client.transmitted call
    some ⟨(state.client.perform lib call).1, history⟩

/-- The log holds the last entries of the transactions. -/
def Watched.Mirrors (state : Watched) : Prop :=
  state.client.frameLog = (state.history.flatMap Transaction.entries).rtake frameLogSize

theorem watched_step {lib : ArduinoJson} {before after : Watched} {call : Call}
    (mirrors : before.Mirrors) (moves : (watched lib).next before call = some after) :
    after.Mirrors := by
  obtain rfl := Option.some.inj moves
  have added (keeps : call ≠ .clearFrameLog) : (before.client.perform lib call).1.frameLog =
      ((before.history ++ before.client.transmitted call).flatMap
        Transaction.entries).rtake frameLogSize := by
    rw [perform_frameLog lib before.client keeps, ModbusClient.logged, mirrors,
      BoundedLog.foldl_push (by decide), ← List.flatMap_append]
  cases call with
  | clearFrameLog => rfl
  | _ => exact added (by nofun)

theorem watched_mirrors {lib : ArduinoJson} {state : Watched}
    (reach : (watched lib).Reaches (fun _ _ => True) state) : state.Mirrors :=
  reach.invariant rfl fun _ _ _ mirrors _ moves => watched_step mirrors moves

/-- The frame log holds the last fifty transactions since it was cleared, oldest first, each as a
request directly followed by the reply to it. A transaction whose request does not go out changes
nothing. -/
theorem frameLog_mirrors {lib : ArduinoJson} {state : Watched}
    (reach : (watched lib).Reaches (fun _ _ => True) state) :
    (state.client.frameLog = (state.history.rtake 50).flatMap (fun transaction =>
        [transaction.txEntry, transaction.rxEntry]) ∧
      Even state.client.frameLog.length ∧ state.client.frameLog.length ≤ 100) ∧
    (∀ transaction ∈ state.history.rtake 50,
      transaction.Told transaction.txEntry transaction.rxEntry) ∧
    ∀ (client : ModbusClient) (slaveId function : UInt8) (startAddr count : Word)
      (data : Nat → Word) (bus : Exchange),
      client.sendFrame (buildReadFrame slaveId function startAddr count) bus.written = false →
        (client.readOnce slaveId function startAddr count data bus).client = client := by
  have mirrors : state.client.frameLog =
      (state.history.rtake 50).flatMap Transaction.entries :=
    (watched_mirrors reach).trans
      (@BoundedLog.rtake_flatMap _ _ Transaction.entries 2 (fun _ => rfl) state.history 50)
  have length : state.client.frameLog.length = 2 * (state.history.rtake 50).length := by
    rw [mirrors, List.length_flatMap]
    simp [Transaction.entries, Nat.mul_comm]
  refine ⟨⟨mirrors, ⟨_, length.trans (Nat.two_mul _)⟩, ?_⟩, fun transaction _ => transaction.told,
    ?_⟩
  · rw [length, BoundedLog.length_rtake]
    omega
  · intro client slaveId function startAddr count data bus unsent
    rw [client.readOnce_logged, ModbusClient.readOnceTransmitted, if_neg (by simp [unsent])]
    exact client.logged_nil

theorem frameLog_mirrors_silent : ∃ state : Watched,
    (watched (flatJson [])).Reaches (fun _ _ => True) state ∧ state.history.length = 3 ∧
      (state.client.frameLog = (state.history.rtake 50).flatMap (fun transaction =>
          [transaction.txEntry, transaction.rxEntry]) ∧
        Even state.client.frameLog.length ∧ state.client.frameLog.length ≤ 100) := by
  have fresh : (watched (flatJson [])).Reaches (fun _ _ => True) _ := .start
  obtain ⟨state, reach, three⟩ := fresh.test
    [.begin .initial, .readInputRegisters 1 0 4 (fun _ => 0) 2 fun _ => silent, .clearFrameLog,
      .readInputRegisters 1 0 4 (fun _ => 0) 3 fun _ => silent]
    (fun state => state.history.length = 3) (by decide +kernel)
  exact ⟨state, reach, of_decide_eq_true three, (frameLog_mirrors reach).1⟩

end SerialClient

end ModbusBridge
