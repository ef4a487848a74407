import Mathlib.Data.List.GetD
import ModbusBridge.Modbus.Answers

/-!
# A Modbus server

A server as the protocol describes it, with its own checksum and its own way of splitting words.
One transaction of the client with such a server transfers the registers that it asks for.
-/

namespace ModbusBridge

open ShiftRegister

/-! ## Words and checksums of the protocol -/

/-- The remainder of the division by `x^16 + x^15 + x^2 + 1`, preset to ones, in a mirror. -/
def checksum (bytes : Bytes) : Word := ((stream bytes).foldl (divide 0x8005) 0xFFFF).reverse

/-- The more significant byte. -/
def upper (value : Word) : UInt8 := .ofNat (value.toNat / 256)

/-- The less significant byte. -/
def lower (value : Word) : UInt8 := .ofNat (value.toNat % 256)

/-- The word of two bytes. -/
def join (upper lower : UInt8) : Word := .ofNat 16 (256 * upper.toNat + lower.toNat)

theorem calculateCRC_eq_checksum (bytes : Bytes) : calculateCRC bytes = checksum bytes := by
  rw [checksum, reverse_divide_foldl, ← run_eq_stream (by decide)]
  rfl

theorem highByte_eq_upper (value : Word) : highByte value = upper value := by
  apply UInt8.toNat_inj.mp
  simp [highByte, upper, BitVec.toNat_ushiftRight, Nat.shiftRight_eq_div_pow]

theorem lowByte_eq_lower (value : Word) : lowByte value = lower value := by
  apply UInt8.toNat_inj.mp
  simp [lowByte, lower]

theorem word_eq_join (high low : UInt8) : word high low = join high low := by
  apply BitVec.eq_of_toNat_eq
  have bound := low.toNat_lt
  have above := high.toNat_lt
  have parts : high.toNat <<< 8 + low.toNat = high.toNat <<< 8 ||| low.toNat :=
    Nat.shiftLeft_add_eq_or_of_lt bound high.toNat
  have shifted : high.toNat <<< 8 = 256 * high.toNat := by
    rw [Nat.shiftLeft_eq, Nat.mul_comm]
  rw [word, join, BitVec.toNat_or, BitVec.toNat_shiftLeft, BitVec.toNat_setWidth,
    BitVec.toNat_setWidth, UInt8.toNat_toBitVec, UInt8.toNat_toBitVec, BitVec.toNat_ofNat,
    Nat.mod_eq_of_lt (show high.toNat < 2 ^ 16 by omega),
    Nat.mod_eq_of_lt (show low.toNat < 2 ^ 16 by omega),
    Nat.mod_eq_of_lt (show high.toNat <<< 8 < 2 ^ 16 by omega), ← parts, shifted]
  omega

theorem join_upper_lower (value : Word) : join (upper value) (lower value) = value := by
  apply BitVec.eq_of_toNat_eq
  have bound := value.isLt
  simp [upper, lower, join]
  omega

theorem upper_join (high low : UInt8) : upper (join high low) = high := by
  apply UInt8.toNat_inj.mp
  have above := high.toNat_lt
  have below := low.toNat_lt
  simp [upper, join]
  omega

theorem lower_join (high low : UInt8) : lower (join high low) = low := by
  apply UInt8.toNat_inj.mp
  simp [lower, join]

/-! ## The server -/

/-- A server with a table of registers for each function code. -/
structure Station where
  address : UInt8
  registers : Table → Word → Word

/-- The table that a function code reads. -/
def Table.ofCode (code : UInt8) : Option Table :=
  if code = 3 then some .holding else if code = 4 then some .input else none

/-- A frame with the checksum behind it, less significant byte first. -/
def withChecksum (frame : Bytes) : Bytes :=
  frame ++ [lower (checksum frame), upper (checksum frame)]

namespace Station

/-- Registers from an address on. -/
def values (station : Station) (table : Table) (start : Word) : Nat → Bytes
  | 0 => []
  | count + 1 =>
      upper (station.registers table start) :: lower (station.registers table start) ::
        station.values table (start + 1) count

/-- The reply that carries registers. -/
def reply (station : Station) (code : UInt8) (table : Table) (start : Word) (count : Nat) :
    Bytes :=
  withChecksum ([station.address, code, .ofNat (2 * count)] ++ station.values table start count)

/-- The reply that refuses a request. -/
def exception (station : Station) (code reason : UInt8) : Bytes :=
  withChecksum [station.address, code ||| 0x80, reason]

/-- What the server sends back. It ignores what is damaged or addressed to another server. -/
def serve (station : Station) : Bytes → Option Bytes
  | [address, code, startUpper, startLower, countUpper, countLower, crcLower, crcUpper] =>
      if join crcUpper crcLower ≠
          checksum [address, code, startUpper, startLower, countUpper, countLower] then none
      else if address ≠ station.address then none
      else
        match Table.ofCode code with
        | none => some (station.exception code 1)
        | some table =>
            let start := join startUpper startLower
            let count := (join countUpper countLower).toNat
            if count = 0 ∨ 125 < count then some (station.exception code 3)
            else if 65536 < start.toNat + count then some (station.exception code 2)
            else some (station.reply code table start count)
  | _ => none

/-! ## Requests -/

theorem serve_buildReadFrame (station : Station) (table : Table) (slaveId : UInt8)
    (start count : Word) :
    station.serve (buildReadFrame slaveId table.function start count) =
      if slaveId ≠ station.address then none
      else if count.toNat = 0 ∨ 125 < count.toNat then
        some (station.exception table.function 3)
      else if 65536 < start.toNat + count.toNat then
        some (station.exception table.function 2)
      else some (station.reply table.function table start count.toNat) := by
  have known : Table.ofCode table.function = some table := by cases table <;> rfl
  simp only [buildReadFrame_eq, List.cons_append, List.nil_append, serve, highByte_eq_upper,
    lowByte_eq_lower, join_upper_lower, calculateCRC_eq_checksum, known, ne_eq, not_true_eq_false,
    if_false]

/-! ## Replies -/

theorem values_length (station : Station) (table : Table) (start : Word) (count : Nat) :
    (station.values table start count).length = 2 * count := by
  induction count generalizing start with
  | zero => rfl
  | succ count induction =>
      rw [values, List.length_cons, List.length_cons, induction]
      omega

theorem reply_length (station : Station) (code : UInt8) (table : Table) (start : Word)
    (count : Nat) : (station.reply code table start count).length = 5 + 2 * count := by
  simp only [reply, withChecksum, List.length_append, values_length, List.length_cons,
    List.length_nil]
  omega

theorem exception_length (station : Station) (code reason : UInt8) :
    (station.exception code reason).length = 5 := rfl

theorem values_getD (station : Station) (table : Table) (start : Word) {count i : Nat}
    (inside : i < count) :
    (station.values table start count).getD (2 * i) 0 =
        upper (station.registers table (start + .ofNat 16 i)) ∧
      (station.values table start count).getD (2 * i + 1) 0 =
        lower (station.registers table (start + .ofNat 16 i)) := by
  induction count generalizing start i with
  | zero => omega
  | succ count induction =>
      cases i with
      | zero => simp [values]
      | succ i =>
          have address : start + .ofNat 16 (i + 1) = start + 1 + .ofNat 16 i := by
            rw [BitVec.ofNat_add, BitVec.add_comm (.ofNat 16 i), BitVec.add_assoc]
            rfl
          rw [address, values, Nat.mul_succ]
          exact induction (start + 1) (by omega)

end Station

theorem validateCRC_withChecksum {frame : Bytes} (nonempty : frame ≠ []) :
    validateCRC (withChecksum frame) = true := by
  have length := List.length_pos_iff.mpr nonempty
  have long : (withChecksum frame).length = frame.length + 2 := by simp [withChecksum]
  have last : (withChecksum frame).getD (frame.length + 1) 0 = upper (checksum frame) := by
    simp [withChecksum]
  have first : (withChecksum frame).getD frame.length 0 = lower (checksum frame) := by
    simp [withChecksum]
  have body : (withChecksum frame).take frame.length = frame := by
    simp [withChecksum]
  rw [validateCRC, if_neg (by omega), long]
  simp only [Nat.add_sub_cancel, show frame.length + 2 - 1 = frame.length + 1 by omega, last, first,
    body, word_eq_join, join_upper_lower, calculateCRC_eq_checksum, beq_self_eq_true]

/-- A frame with a valid checksum ends in the checksum of the bytes before. -/
theorem eq_withChecksum_of_validateCRC {frame : Bytes} (valid : validateCRC frame = true) :
    frame = withChecksum (frame.take (frame.length - 2)) := by
  rw [validateCRC] at valid
  split at valid
  · contradiction
  next long =>
      have checked : word (frame.getD (frame.length - 1) 0) (frame.getD (frame.length - 2) 0) =
          checksum (frame.take (frame.length - 2)) := by
        rw [← calculateCRC_eq_checksum]
        simpa using valid
      have ends : frame.drop (frame.length - 2) =
          [frame.getD (frame.length - 2) 0, frame.getD (frame.length - 1) 0] := by
        rw [List.drop_eq_getElem_cons (by omega), List.drop_eq_getElem_cons (by omega),
          List.drop_eq_nil_of_le (by omega), List.getD_eq_getElem _ _ (by omega),
          List.getD_eq_getElem _ _ (by omega)]
        simp only [show frame.length - 2 + 1 = frame.length - 1 by omega]
      rw [withChecksum, ← checked, word_eq_join, upper_join, lower_join, ← ends,
        List.take_append_drop]

/-- A frame with its checksum leaves the register of the client empty. -/
theorem codeword_withChecksum (frame : Bytes) :
    Codeword (0xA001 : Word) 0xFFFF (withChecksum frame) := by
  have crc : run (0xA001 : Word) 0xFFFF frame = checksum frame := calculateCRC_eq_checksum frame
  rw [Codeword, withChecksum, run_append, crc, ← lowByte_eq_lower, ← highByte_eq_upper]
  generalize checksum frame = crc
  have first : feed (0xA001 : Word) crc (lowByte crc) = crc >>> 8 := by
    rw [feed, shifts_of_zeros]
    · apply BitVec.eq_of_getLsbD_eq
      intro i _
      simp [lowByte]
    · intro i bound
      have inside : i < 16 := by omega
      simp [lowByte, bound, inside]
  have second : feed (0xA001 : Word) (crc >>> 8) (highByte crc) = 0#16 := by
    have rest : crc >>> 8 ^^^ (highByte crc).toBitVec.setWidth 16 = 0#16 := by
      apply BitVec.eq_of_getLsbD_eq
      intro i inside
      by_cases bound : i < 8
      · simp [highByte, bound, inside]
      · simp [highByte, bound, BitVec.getLsbD_of_ge crc (8 + i) (by omega)]
    rw [feed, rest, shifts_of_zeros] <;> simp
  simp only [run, List.foldl_cons, List.foldl_nil, first, second]

namespace Station

/-- The client accepts a reply with registers. -/
theorem reply_acceptable (station : Station) (table : Table) (start : Word) {count : Nat}
    (small : count ≤ 125) :
    Acceptable count (station.reply table.function table start count) where
  crc := validateCRC_withChecksum (by simp)
  noException := by
    have code : (station.reply table.function table start count).getD 1 0 = table.function := by
      simp [reply, withChecksum]
    rw [code]
    cases table <;> decide
  byteCount := by
    have bound : 2 * count < 256 := by omega
    simp [reply, withChecksum, Nat.mod_eq_of_lt bound]
  long := (station.reply_length _ table start count).ge

theorem reply_getD (station : Station) (code : UInt8) (table : Table) (start : Word)
    {count k : Nat} (inside : k < 2 * count) :
    (station.reply code table start count).getD (3 + k) 0 =
      (station.values table start count).getD k 0 := by
  have length := station.values_length table start count
  rw [reply, withChecksum, List.getD_append _ _ _ _ (by simp; omega), Nat.add_comm]
  rfl

/-- The words behind the header of a reply are the registers. -/
theorem decodeWords_reply (station : Station) (code : UInt8) (table : Table) (start : Word)
    {count i : Nat} (inside : i < count) (data : Nat → Word) :
    decodeWords (station.reply code table start count) count data i =
      station.registers table (start + .ofNat 16 i) := by
  obtain ⟨first, second⟩ := station.values_getD table start inside
  rw [decodeWords, if_pos inside, Nat.mul_comm, Nat.add_assoc, reply_getD _ _ _ _ (by omega),
    reply_getD _ _ _ _ (by omega), first, second, word_eq_join, join_upper_lower]

end Station

/-! ## Intact replies -/

/-- Between two bytes, no turn of the receive loop sees a pause of more than 10 ms. -/
def Gapless : Option UInt32 → List Tick → Prop
  | _, [] => True
  | last, tick :: ticks =>
      match tick.byte with
      | some _ => Gapless (some tick.later) ticks
      | none => (∀ time, last = some time → tick.later - time ≤ 10) ∧ Gapless last ticks

/-- A reply arrives in time and without gaps, and nothing comes behind it. -/
def Intact (timeout : UInt32) (bus : Exchange) (reply : Bytes) : Prop :=
  ∃ arriving silent, bus.ticks = arriving ++ silent ∧ arriving.filterMap Tick.byte = reply ∧
    (∀ tick ∈ arriving, tick.now - bus.startTime < timeout) ∧ Gapless none arriving ∧
    ∀ tick ∈ silent, tick.byte = none

theorem receiveLoop_silent {timeout startTime last : UInt32} {silent : List Tick} {buffer : Bytes}
    (quiet : ∀ tick ∈ silent, tick.byte = none) :
    receiveLoop timeout startTime silent last buffer = some buffer := by
  induction silent with
  | nil => rfl
  | cons tick silent induction =>
      rw [receiveLoop, quiet tick List.mem_cons_self,
        induction fun other member => quiet other (List.mem_cons_of_mem tick member)]
      simp

theorem receiveLoop_arriving {timeout startTime : UInt32} {arriving silent : List Tick}
    (last : UInt32) (buffer : Bytes)
    (inTime : ∀ tick ∈ arriving, tick.now - startTime < timeout)
    (gapless : Gapless (if buffer = [] then none else some last) arriving)
    (quiet : ∀ tick ∈ silent, tick.byte = none)
    (fits : buffer.length + (arriving.filterMap Tick.byte).length ≤ maxResponse) :
    receiveLoop timeout startTime (arriving ++ silent) last buffer =
      some (buffer ++ arriving.filterMap Tick.byte) := by
  induction arriving generalizing last buffer with
  | nil => simpa using receiveLoop_silent quiet
  | cons tick arriving induction =>
      have now := inTime tick List.mem_cons_self
      have later : ∀ tick ∈ arriving, tick.now - startTime < timeout :=
        fun other member => inTime other (List.mem_cons_of_mem tick member)
      rw [List.cons_append, receiveLoop, if_pos now]
      cases heard : tick.byte with
      | some byte =>
          rw [Gapless, heard] at gapless
          rw [List.filterMap_cons_some heard, List.length_cons] at fits
          rw [List.filterMap_cons_some heard]
          dsimp only
          rw [if_neg (by omega), induction _ _ later (by simpa using gapless)
            (by rw [List.length_append, List.length_singleton]; omega)]
          simp
      | none =>
          rw [Gapless, heard] at gapless
          rw [List.filterMap_cons_none heard] at fits ⊢
          have goesOn : ¬ (buffer.length > 0 ∧ tick.later - last > 10) := by
            rintro ⟨some_bytes, pause⟩
            have nonempty : buffer ≠ [] := List.length_pos_iff.mp some_bytes
            rw [if_neg nonempty] at gapless
            exact UInt32.not_lt.mpr (gapless.1 last rfl) pause
          dsimp only
          rw [if_neg goesOn, induction _ _ later gapless.2 fits]

/-- The client collects a reply that arrives intact. -/
theorem ModbusClient.delivered_of_intact {client : ModbusClient} {bus : Exchange} {reply : Bytes}
    (intact : Intact client.responseTimeout bus reply) (fits : reply.length ≤ maxResponse) :
    client.delivered bus = some reply := by
  obtain ⟨arriving, silent, ticks, bytes, inTime, gapless, quiet⟩ := intact
  rw [delivered, ticks, receiveLoop_arriving bus.startTime [] inTime gapless quiet
    (by simpa [bytes] using fits), bytes, List.nil_append]

theorem Exchange.prompt_intact {timeout : UInt32} (some_time : 1 < timeout) (reply : Bytes) :
    Intact timeout (.prompt reply) reply := by
  refine ⟨_, _, rfl, ?_, ?_, ?_, ?_⟩
  · rw [List.filterMap_map]
    exact List.filterMap_some
  · intro tick member
    obtain ⟨byte, -, rfl⟩ := List.mem_map.mp member
    simpa [Exchange.prompt] using some_time
  · generalize (none : Option UInt32) = last
    induction reply generalizing last with
    | nil => trivial
    | cons byte reply induction => exact induction (some 1)
  · simp

/-! ## One transaction -/

/-- A transaction with a server whose reply arrives intact transfers the registers. -/
theorem readOnce_transfers {client : ModbusClient} {start count : Word} {bus : Exchange}
    (initialized : client.initialized = true) (positive : 0 < count.toNat)
    (small : count.toNat ≤ 125) (inside : start.toNat + count.toNat ≤ 65536)
    (station : Station) (table : Table) (data : Nat → Word) (written : bus.written = 8)
    (intact : ∀ reply,
      station.serve (buildReadFrame station.address table.function start count) = some reply →
        Intact client.responseTimeout bus reply) :
    let result := client.readOnce station.address table.function start count data bus
    result.success = true ∧
      (∀ i < count.toNat, result.data i = station.registers table (start + .ofNat 16 i)) ∧
      ∀ i, count.toNat ≤ i → result.data i = data i := by
  have served : station.serve (buildReadFrame station.address table.function start count) =
      some (station.reply table.function table start count.toNat) := by
    rw [station.serve_buildReadFrame, if_neg (by simp), if_neg (by omega), if_neg (by omega)]
  have acceptable := station.reply_acceptable table start small
  have words := fun i (lower : i < count.toNat) =>
    station.decodeWords_reply table.function table start lower data
  have size : (station.reply table.function table start count.toNat).length ≤ maxResponse := by
    rw [Station.reply_length, maxResponse]
    omega
  have delivered := client.delivered_of_intact (intact _ served) size
  generalize station.reply table.function table start count.toNat = reply at *
  have taken : client.candidate count.toNat bus = some reply := by
    simp only [ModbusClient.candidate, delivered, written, acceptable, and_self, if_true]
  obtain ⟨success, -, decoded⟩ :=
    client.readOnce_outcome initialized small table station.address start data bus
  rw [taken] at success decoded
  refine ⟨success, fun i lower => ?_, fun i beyond => ?_⟩
  · rw [decoded]
    exact words i lower
  · rw [decoded, Option.elim_some, decodeWords, if_neg (by omega)]

/-- Two input registers of a server whose registers hold their own addresses. -/
theorem readOnce_transfers_two :
    let station : Station := ⟨17, fun _ address => address⟩
    let client : ModbusClient := ⟨true, 1000, []⟩
    let bus := Exchange.prompt (station.reply 4 .input 0x9C40 2)
    let result := client.readOnce 17 Table.input.function 0x9C40 2 (fun _ => 0) bus
    result.success = true ∧
      (∀ i < (2 : Word).toNat, result.data i = 0x9C40 + .ofNat 16 i) ∧
      ∀ i, (2 : Word).toNat ≤ i → result.data i = 0 := by
  intro station client bus
  refine readOnce_transfers rfl (by decide) (by decide) (by decide) station
    .input _ rfl fun reply served => ?_
  rw [station.serve_buildReadFrame] at served
  obtain rfl := Option.some.inj served
  exact Exchange.prompt_intact (by decide) _

end ModbusBridge
