import ModbusBridge.Modbus.Answers

/-!
# What reads leave in the frame log

The frame log has a fixed size. A read whose request goes out adds two entries, and a log that is
full does not get longer.
-/

namespace ModbusBridge

/-- The length of the frame log after some more entries. -/
def filled (length entries : Nat) : Nat := max length (min frameLogSize (length + entries))

theorem filled_zero (length : Nat) : filled length 0 = length := by
  rw [filled]
  omega

theorem filled_of_full {length : Nat} (full : frameLogSize ≤ length) (entries : Nat) :
    filled length entries = length := by
  rw [filled]
  omega

theorem filled_filled (length first second : Nat) :
    filled (filled length first) second = filled length (first + second) := by
  unfold filled
  omega

namespace ModbusClient

variable {client : ModbusClient}

theorem logFrame_length (client : ModbusClient) (entry : ModbusFrameLog) :
    (client.logFrame entry).frameLog.length = filled client.frameLog.length 1 := by
  rw [logFrame, List.length_append, List.length_singleton, filled, frameLogSize]
  split
  · rw [List.length_drop]
    omega
  · omega

/-- The request of a read goes out. -/
def sends (client : ModbusClient) (bus : Exchange) : Bool :=
  client.initialized && bus.written == 8

/-- A read receives a frame: a reply or an exception. -/
def hears (client : ModbusClient) (bus : Exchange) : Bool :=
  client.sends bus && (client.receiveFrame bus).isSome

theorem sends_congr {after : ModbusClient} (ready : after.initialized = client.initialized)
    (bus : Exchange) : after.sends bus = client.sends bus := by
  rw [sends, sends, ready]

theorem hears_congr {after : ModbusClient} (ready : after.initialized = client.initialized)
    (same : after.responseTimeout = client.responseTimeout) (bus : Exchange) :
    after.hears bus = client.hears bus := by
  simp only [hears, sends, receiveFrame, delivered, ready, same]

/-- The dump of a frame is not the mark of a missing reply. -/
theorem bytesToHex_ne_timeout {frame : Bytes} (nonempty : frame ≠ []) :
    bytesToHex frame ≠ ascii "TIMEOUT" := by
  obtain ⟨byte, rest, rfl⟩ := List.exists_cons_of_ne_nil nonempty
  intro same
  have first : (bytesToHex (byte :: rest)).head? = some (hexDigit (byte / 16)) := by
    cases rest <;> rfl
  rw [same] at first
  have digit : hexDigit (byte / 16) = 84 := (Option.some.inj first).symm
  have bound := byte.toNat_lt
  rw [hexDigit] at digit
  have value := congrArg UInt8.toNat digit
  split at value <;> simp at value <;> omega

theorem receiveFrame_ne_nil {bus : Exchange} {frame : Bytes}
    (received : client.receiveFrame bus = some frame) : frame ≠ [] := by
  rintro rfl
  rw [receiveFrame] at received
  split at received
  · contradiction
  · split at received
    · contradiction
    · split_ifs at received with short
      obtain rfl := Option.some.inj received
      exact short (by decide)

/-- A read that goes out leaves two entries, and the last one tells whether a frame came back. -/
theorem readOnce_frameLog (client : ModbusClient) (slaveId : UInt8) (table : Table)
    (startAddr count : Word) (data : Nat → Word) (bus : Exchange) :
    let after := (client.readOnce slaveId table.function startAddr count data bus).client
    if client.sends bus then
      after.frameLog.length = filled client.frameLog.length 2 ∧
        ∃ lastFrame, after.frameLog.getLast? = some lastFrame ∧ lastFrame.isTx = false ∧
          (lastFrame.hexDump ≠ ascii "TIMEOUT" ↔ client.hears bus = true)
    else after = client := by
  have goes : ((buildReadFrame slaveId table.function startAddr count).length > 0 ∧
      client.sendFrame (buildReadFrame slaveId table.function startAddr count) bus.written = true) ↔
        client.sends bus = true := by
    simp [sendFrame, sends]
  have logged : ∀ (client : ModbusClient) (entry : ModbusFrameLog),
      (client.logFrame entry).frameLog.getLast? = some entry := fun client entry => by
    simp [logFrame]
  intro after
  split
  next sent =>
      simp only [after, readOnce, goes, sent, if_true]
      cases received : client.receiveFrame bus with
      | none =>
          have later : ∀ entry, (client.logFrame entry).receiveFrame bus = none := fun _ => received
          simp only [later, logFrame_length, filled_filled]
          exact ⟨trivial, _, logged _ _, rfl, by simp [hears, received]⟩
      | some frame =>
          have later : ∀ entry, (client.logFrame entry).receiveFrame bus = some frame :=
            fun _ => received
          simp only [later, logFrame_length, filled_filled]
          refine ⟨trivial, _, logged _ _, rfl, ?_⟩
          simp [hears, received, sent, bytesToHex_ne_timeout (receiveFrame_ne_nil received)]
  next unsent =>
      simp only [after, readOnce]
      rw [if_neg fun both => unsent (goes.mp both)]

/-- A read with one attempt is one transaction, as far as the client is concerned. -/
theorem readWithRetry_once_client (client : ModbusClient) (slaveId : UInt8) (table : Table)
    (startAddr : Word) (data : Nat → Word) (bus : Exchange) :
    (client.readWithRetry slaveId table.function startAddr 1 data 1 fun _ => bus).client =
      (client.readOnce slaveId table.function startAddr 1 data bus).client := by
  by_cases initialized : client.initialized = true
  · rw [readWithRetry_eq initialized (by decide) (by decide), show turns 1 = 1 from rfl, attempts]
    dsimp only
    split <;> rfl
  · have kept := client.readOnce_frameLog slaveId table startAddr 1 data bus
    rw [if_neg (by simp [sends, initialized])] at kept
    rw [kept, readWithRetry, if_pos (.inl (by simpa using initialized))]

/-- A read with one attempt changes nothing but the frame log, and adds two entries if any. -/
theorem readWithRetry_once_frameLog (client : ModbusClient) (slaveId : UInt8) (table : Table)
    (startAddr : Word) (data : Nat → Word) (bus : Exchange) :
    (client.readWithRetry slaveId table.function startAddr 1 data 1
        fun _ => bus).client.frameLog.length =
      filled client.frameLog.length (if client.sends bus then 2 else 0) := by
  have logged := client.readOnce_frameLog slaveId table startAddr 1 data bus
  rw [readWithRetry_once_client]
  split at logged
  next sent => rw [logged.1, if_pos sent]
  next unsent => rw [logged, if_neg unsent, filled_zero]

end ModbusClient

end ModbusBridge
