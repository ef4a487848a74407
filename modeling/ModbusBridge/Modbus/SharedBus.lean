import Mathlib.Data.List.Nodup
import Mathlib.Data.List.Perm.Subperm
import ModbusBridge.Library.StepSystem
import ModbusBridge.Modbus.Server

/-!
# Two tasks on one bus

The poller task and the web task share the client and its UART, and nothing keeps one transaction
from running into the other. The receive side of the UART is a queue of bytes. A transaction goes
through the steps of `readOnce`: drain the queue, transmit, drain the echo, receive until the bus is
idle, parse. The steps of the two tasks and the arrival of replies interleave freely.
-/

namespace ModbusBridge

open ShiftRegister

/-! ## Steps of a transaction -/

/-- `receiveFrame` on the bytes that are queued when the bus falls silent. -/
def receiveUntilIdle (fifo : Bytes) : Option Bytes :=
  if fifo.length > maxResponse then none
  else if fifo.length < 5 then none
  else if !validateCRC fifo then none
  else some fifo

/-- What `readOnce` makes of a received frame. -/
def conclude (count : Word) (data : Nat → Word) : Option Bytes → Bool × (Nat → Word)
  | none => (false, data)
  | some response =>
      let parsed := parseReadResponse response count data
      let exception : Bool := response.length ≥ 3 ∧ response.getD 1 0 &&& 0x80 ≠ 0
      (parsed.1 && !exception, parsed.2)

theorem receiveLoop_overflow {timeout startTime last : UInt32} (patient : 1 - startTime < timeout)
    (reply : Bytes) (rest : List Tick) (buffer : Bytes) (room : buffer.length ≤ maxResponse)
    (long : maxResponse < buffer.length + reply.length) :
    receiveLoop timeout startTime (reply.map (fun byte => ⟨1, some byte, 1⟩) ++ rest) last buffer =
      none := by
  induction reply generalizing last buffer with
  | nil =>
      rw [List.length_nil] at long
      omega
  | cons byte reply induction =>
      rw [List.map_cons, List.cons_append, receiveLoop, if_pos patient]
      dsimp only
      split
      · rfl
      · rw [List.length_cons] at long
        apply induction <;> rw [List.length_append, List.length_singleton] <;> omega

theorem receiveFrame_prompt {client : ModbusClient} (initialized : client.initialized = true)
    (patient : 1 < client.responseTimeout) (fifo : Bytes) :
    client.receiveFrame (.prompt fifo) = receiveUntilIdle fifo := by
  rw [ModbusClient.receiveFrame, receiveUntilIdle, initialized]
  by_cases long : fifo.length > maxResponse
  · have lost : client.delivered (.prompt fifo) = none :=
      receiveLoop_overflow (by simpa [Exchange.prompt] using patient) fifo _ [] (by simp)
        (by simpa using long)
    simp [lost, long]
  · have kept := client.delivered_of_intact (Exchange.prompt_intact patient fifo) (by omega)
    simp [kept, long]

/-- A transaction is the composition of its steps. -/
theorem readOnce_eq_conclude {client : ModbusClient} (initialized : client.initialized = true)
    (patient : 1 < client.responseTimeout) (table : Table) (slaveId : UInt8)
    (startAddr count : Word) (data : Nat → Word) (fifo : Bytes) :
    let result := client.readOnce slaveId table.function startAddr count data (.prompt fifo)
    (result.success, result.data) = conclude count data (receiveUntilIdle fifo) := by
  have received (entry : ModbusFrameLog) :
      (client.logFrame entry).receiveFrame (.prompt fifo) = receiveUntilIdle fifo :=
    receiveFrame_prompt initialized patient fifo
  have sends :
      client.sendFrame (buildReadFrame slaveId table.function startAddr count) 8 = true := by
    simp [ModbusClient.sendFrame, initialized]
  have written : (Exchange.prompt fifo).written = 8 := rfl
  simp only [ModbusClient.readOnce, buildReadFrame_length, written, sends, received]
  cases receiveUntilIdle fifo <;> rfl

/-! ## The system -/

/-- The tasks that share the client. -/
inductive Task
  | poller
  | web
  deriving DecidableEq

def Task.other : Task → Task
  | poller => web
  | web => poller

/-- What a task asks for. -/
structure Request where
  slaveId : UInt8
  table : Table
  startAddr : Word
  count : Word
  positive : 0 < count.toNat
  small : count.toNat ≤ 125

def Request.frame (request : Request) : Bytes :=
  buildReadFrame request.slaveId request.table.function request.startAddr request.count

/-- How far a task has come. -/
inductive Progress
  | ready
  | drained
  | transmitted
  | listening
  | received (response : Option Bytes)
  | finished (success : Bool) (data : Nat → Word)

/-- The UART and the tasks. -/
structure Uart where
  /-- Bytes that have arrived and are not yet read. -/
  fifo : Bytes
  /-- Replies that have not yet arrived. -/
  inFlight : List Bytes
  progress : Task → Progress

/-- The servers on the bus, and what the tasks read from them. -/
structure Traffic where
  stations : List Station
  request : Task → Request
  /-- The arrays that the tasks read into. -/
  buffer : Task → Nat → Word

inductive Step
  | drain (task : Task)
  /-- The transceiver may echo the request. -/
  | transmit (task : Task) (echo : Bool)
  | deliver
  | drainEcho (task : Task)
  | receive (task : Task)
  | parse (task : Task)

/-- The task enters another part of its transaction. -/
def Uart.enter (uart : Uart) (task : Task) (progress : Progress) : Uart :=
  { uart with progress := Function.update uart.progress task progress }

theorem Uart.enter_cases {uart : Uart} {task other : Task} {progress found : Progress}
    (there : (uart.enter task progress).progress other = found) :
    other = task ∧ progress = found ∨ uart.progress other = found := by
  simp only [Uart.enter, Function.update_apply] at there
  split_ifs at there with same
  · exact .inl ⟨same, there⟩
  · exact .inr there

namespace Traffic

/-- What the servers reply to the request of a task. -/
def answer (traffic : Traffic) (task : Task) : Option Bytes :=
  traffic.stations.findSome? (·.serve (traffic.request task).frame)

/-- The next state of the bus. -/
def next (traffic : Traffic) (uart : Uart) : Step → Option Uart
  | .drain task =>
      match uart.progress task with
      | .ready => some { uart.enter task .drained with fifo := [] }
      | _ => none
  | .transmit task echo =>
      match uart.progress task with
      | .drained =>
          some { uart.enter task .transmitted with
            fifo := uart.fifo ++ if echo then (traffic.request task).frame else []
            inFlight := uart.inFlight ++ (traffic.answer task).toList }
      | _ => none
  | .deliver =>
      match uart.inFlight with
      | [] => none
      | reply :: replies => some { uart with fifo := uart.fifo ++ reply, inFlight := replies }
  | .drainEcho task =>
      match uart.progress task with
      | .transmitted => some { uart.enter task .listening with fifo := [] }
      | _ => none
  | .receive task =>
      match uart.progress task with
      | .listening =>
          -- when the buffer overflows, the rest stays in the queue
          some { uart.enter task (.received (receiveUntilIdle uart.fifo)) with
            fifo := uart.fifo.drop maxResponse }
      | _ => none
  | .parse task =>
      match uart.progress task with
      | .received response =>
          let outcome := conclude (traffic.request task).count (traffic.buffer task) response
          some (uart.enter task (.finished outcome.1 outcome.2))
      | _ => none

/-- Both tasks are about to begin a transaction. -/
def system (traffic : Traffic) : StepSystem Uart Step where
  start := { fifo := [], inFlight := [], progress := fun _ => .ready }
  next := traffic.next

/-- The registers that the task asked for. -/
def Correct (traffic : Traffic) (task : Task) (data : Nat → Word) : Prop :=
  ∃ station ∈ traffic.stations, station.address = (traffic.request task).slaveId ∧
    ∀ i < (traffic.request task).count.toNat,
      data i = station.registers (traffic.request task).table
        ((traffic.request task).startAddr + .ofNat 16 i)

/-- The frames that a task has brought about. -/
def frames (traffic : Traffic) (task : Task) : List Bytes :=
  (traffic.request task).frame :: (traffic.answer task).toList

/-- A frame of the other task, or its tail, is all that is queued, and would pass for a reply. -/
def Mistakable (traffic : Traffic) (uart : Uart) (task : Task) : Prop :=
  (∃ frame ∈ traffic.frames task.other, uart.fifo <:+ frame) ∧
    Acceptable (traffic.request task).count.toNat uart.fifo ∧
    traffic.answer task ≠ some uart.fifo

instance (traffic : Traffic) (uart : Uart) (task : Task) :
    Decidable (traffic.Mistakable uart task) :=
  inferInstanceAs (Decidable (_ ∧ _ ∧ _))

/-- Nobody receives while what is queued can be mistaken. -/
def Undisturbed (traffic : Traffic) (uart : Uart) : Step → Prop
  | .receive task => ¬ traffic.Mistakable uart task
  | _ => True

instance (traffic : Traffic) (uart : Uart) :
    (step : Step) → Decidable (traffic.Undisturbed uart step)
  | .receive task => inferInstanceAs (Decidable (¬ traffic.Mistakable uart task))
  | .drain _ | .transmit _ _ | .deliver | .drainEcho _ | .parse _ => .isTrue trivial

end Traffic

/-! ## The frames on the bus -/

theorem Request.frame_eq (request : Request) :
    ∃ body, request.frame = withChecksum body := by
  refine ⟨[request.slaveId, request.table.function, highByte request.startAddr,
    lowByte request.startAddr, highByte request.count, lowByte request.count], ?_⟩
  rw [frame, buildReadFrame_eq]
  simp only [lowByte_eq_lower, highByte_eq_upper, calculateCRC_eq_checksum]
  rfl

/-- What is queued is made of echoes and replies. -/
inductive Chunk
  | echo (task : Task)
  | reply (task : Task)
  deriving DecidableEq

namespace Traffic

variable {traffic : Traffic} {task : Task}

theorem answer_cases {reply : Bytes} (answered : traffic.answer task = some reply) :
    ∃ station ∈ traffic.stations, station.address = (traffic.request task).slaveId ∧
      (reply = station.reply (traffic.request task).table.function (traffic.request task).table
          (traffic.request task).startAddr (traffic.request task).count.toNat ∨
        reply = station.exception (traffic.request task).table.function 2) := by
  obtain ⟨station, member, serves⟩ := List.exists_of_findSome?_eq_some answered
  have small := (traffic.request task).small
  have positive := (traffic.request task).positive
  rw [Request.frame, Station.serve_buildReadFrame] at serves
  split_ifs at serves with addressed
  · omega
  · exact ⟨station, member, (not_not.mp addressed).symm, .inr (Option.some.inj serves).symm⟩
  · exact ⟨station, member, (not_not.mp addressed).symm, .inl (Option.some.inj serves).symm⟩

/-- The bytes of a chunk. -/
def bytes (traffic : Traffic) : Chunk → Bytes
  | .echo task => (traffic.request task).frame
  | .reply task => (traffic.answer task).getD []

/-- A chunk that can turn up: nobody replies to some requests. -/
def Sendable (traffic : Traffic) : Chunk → Prop
  | .echo _ => True
  | .reply task => (traffic.answer task).isSome

theorem bytes_spec {chunk : Chunk} (sendable : traffic.Sendable chunk) :
    Codeword (0xA001 : Word) 0xFFFF (traffic.bytes chunk) ∧
      0 < (traffic.bytes chunk).length ∧ (traffic.bytes chunk).length ≤ 255 := by
  cases chunk with
  | echo task =>
      obtain ⟨body, frame⟩ := (traffic.request task).frame_eq
      have length : (traffic.request task).frame.length = 8 := buildReadFrame_length _ _ _ _
      rw [bytes, length, frame]
      exact ⟨codeword_withChecksum body, by decide, by decide⟩
  | reply task =>
      obtain ⟨reply, answered⟩ := Option.isSome_iff_exists.mp sendable
      have small := (traffic.request task).small
      obtain ⟨station, -, -, rfl | rfl⟩ := answer_cases answered
      · rw [bytes, answered, Option.getD_some, Station.reply_length]
        exact ⟨codeword_withChecksum _, by omega, by omega⟩
      · rw [bytes, answered, Option.getD_some, Station.exception_length]
        exact ⟨codeword_withChecksum _, by decide, by decide⟩

/-- Two or three chunks in a row are no frame. -/
theorem validateCRC_chunks {first second : Chunk} {rest : List Chunk} (few : rest.length ≤ 1)
    (sendable : ∀ chunk ∈ first :: second :: rest, traffic.Sendable chunk) :
    ¬ validateCRC (((first :: second :: rest).map traffic.bytes).flatten) = true := by
  intro valid
  have whole : Codeword (0xA001 : Word) 0xFFFF
      (((first :: second :: rest).map traffic.bytes).flatten) := by
    rw [eq_withChecksum_of_validateCRC valid]
    exact codeword_withChecksum _
  obtain ⟨one, -, -⟩ := bytes_spec (sendable first (by simp))
  obtain ⟨two, positive, short⟩ := bytes_spec (sendable second (by simp))
  match rest, few with
  | [], _ =>
      refine one.not_append (by decide) (by decide) two ?_
      simpa using whole
  | [third], _ =>
      obtain ⟨three, -, -⟩ := bytes_spec (sendable third (by simp))
      have avoided : avoids (0xA001 : Word).toNat (0xFFFF : Word).toNat 2040 (0xFFFF : Word).toNat =
          true := by decide +kernel
      refine one.not_append_append (by decide)
        (iterate_shift_ne avoided (by omega) (by omega)) two three ?_
      simpa using whole

theorem reply_length_le (traffic : Traffic) (task : Task) :
    (traffic.bytes (.reply task)).length ≤ 5 + 2 * (traffic.request task).count.toNat := by
  rw [bytes]
  cases answered : traffic.answer task with
  | none => simp
  | some reply =>
      obtain ⟨station, -, -, rfl | rfl⟩ := answer_cases answered
      · rw [Option.getD_some, Station.reply_length]
      · rw [Option.getD_some, Station.exception_length]
        omega

/-- The parts of a transaction, in their order. -/
def rank : Progress → Nat
  | .ready => 0
  | .drained => 1
  | .transmitted => 2
  | .listening => 3
  | .received _ => 4
  | .finished _ _ => 5

/-- The queue holds chunks, each at most once, without the part that an overflow has taken. -/
structure Held (traffic : Traffic) (uart : Uart) (arrived : List Chunk) (flying : List Task)
    (cut : Nat) : Prop where
  fifo_eq : uart.fifo = ((arrived.map traffic.bytes).flatten).drop cut
  cut_le : cut ≤ ((arrived.map traffic.bytes).flatten).length
  inFlight_eq : uart.inFlight = flying.map fun task => traffic.bytes (.reply task)
  nodup : (arrived ++ flying.map Chunk.reply).Nodup
  replied : ∀ task, .reply task ∈ arrived ++ flying.map .reply →
    (traffic.answer task).isSome ∧ 2 ≤ rank (uart.progress task)
  echoed : ∀ task, .echo task ∈ arrived → rank (uart.progress task) = 2
  cut_cases : cut = 0 ∨ maxResponse ≤ cut ∧ ∃ task, 4 ≤ rank (uart.progress task)

namespace Held

variable {uart : Uart} {arrived : List Chunk} {flying : List Task} {cut : Nat}

theorem sendable (held : traffic.Held uart arrived flying cut) {chunk : Chunk}
    (member : chunk ∈ arrived) : traffic.Sendable chunk := by
  cases chunk with
  | echo => trivial
  | reply task => exact (held.replied task (List.mem_append_left _ member)).1

theorem silent (held : traffic.Held uart arrived flying cut)
    (elsewhere : rank (uart.progress task) ≠ 2) : .echo task ∉ arrived :=
  fun member => elsewhere (held.echoed task member)

theorem fresh (held : traffic.Held uart arrived flying cut)
    (early : rank (uart.progress task) < 2) : .reply task ∉ arrived ++ flying.map Chunk.reply :=
  fun member => Nat.not_le_of_lt early (held.replied task member).2

/-- Only three chunks can reach a task that listens. -/
theorem subset (held : traffic.Held uart arrived flying cut)
    (listens : rank (uart.progress task) = 3) :
    arrived ⊆ [.reply task, .reply task.other, .echo task.other] := by
  intro chunk member
  cases chunk with
  | echo sender =>
      have waits := held.echoed sender member
      have different : sender ≠ task := by
        rintro rfl
        omega
      cases task <;> cases sender <;> simp_all [Task.other]
  | reply sender => cases task <;> cases sender <;> simp [Task.other]

/-- After an overflow, the echo of the other task is gone. -/
theorem subset_of_cut (held : traffic.Held uart arrived flying cut)
    (listens : rank (uart.progress task) = 3) (overflowed : cut ≠ 0) :
    arrived ⊆ [.reply task, .reply task.other] := by
  intro chunk member
  have three := held.subset listens member
  obtain ⟨-, reader, done⟩ := held.cut_cases.resolve_left overflowed
  cases chunk with
  | echo sender =>
      have waits := held.echoed sender member
      have other : sender = task.other := by simpa using three
      have apart : reader ≠ task := by
        rintro rfl
        omega
      cases task <;> cases reader <;> simp_all [Task.other]
  | reply sender => simpa using three

/-- If a listening task that is not mistaken accepts a foreign frame, only its own reply can end
with that frame. -/
theorem own_tail (held : traffic.Held uart arrived flying cut)
    (listens : rank (uart.progress task) = 3) (clear : ¬ traffic.Mistakable uart task)
    (acceptable : Acceptable (traffic.request task).count.toNat uart.fifo)
    (foreign : traffic.answer task ≠ some uart.fifo) {chunk : Chunk} (member : chunk ∈ arrived)
    (tail : uart.fifo <:+ traffic.bytes chunk) : chunk = .reply task := by
  by_contra different
  refine clear ⟨⟨traffic.bytes chunk, ?_, tail⟩, acceptable, foreign⟩
  have three := held.subset listens member
  have sent := held.sendable member
  simp only [List.mem_cons, different, List.not_mem_nil, or_false, false_or] at three
  rcases three with rfl | rfl
  · obtain ⟨reply, answered⟩ := Option.isSome_iff_exists.mp sent
    simp [frames, bytes, answered]
  · simp [frames, bytes]

/-- Without an overflow, all that is queued is one chunk, or no frame. -/
theorem own_reply_whole (held : traffic.Held uart arrived flying 0)
    (listens : rank (uart.progress task) = 3) (clear : ¬ traffic.Mistakable uart task)
    (acceptable : Acceptable (traffic.request task).count.toNat uart.fifo) :
    traffic.answer task = some uart.fifo := by
  by_contra foreign
  have long := acceptable.long
  have distinct := (List.nodup_append.mp held.nodup).1
  have few := (List.subperm_of_subset distinct (held.subset listens)).length_le
  have fifo := held.fifo_eq
  rw [List.drop_zero] at fifo
  match arrived, few with
  | [], _ => simp [fifo] at long
  | [chunk], _ =>
      have same : uart.fifo = traffic.bytes chunk := by simpa using fifo
      obtain rfl := held.own_tail listens clear acceptable foreign List.mem_cons_self
        (same ▸ List.suffix_rfl)
      obtain ⟨reply, answered⟩ :=
        Option.isSome_iff_exists.mp (held.sendable List.mem_cons_self)
      exact foreign (by rw [same, bytes, answered, Option.getD_some])
  | first :: second :: rest, few =>
      refine validateCRC_chunks ?_ (fun chunk => held.sendable) (fifo ▸ acceptable.crc)
      simp only [List.length_cons, List.length_nil] at few
      omega

/-- After an overflow, what is queued is the tail of one chunk, which is too short. -/
theorem not_acceptable_of_cut (held : traffic.Held uart arrived flying cut)
    (listens : rank (uart.progress task) = 3) (clear : ¬ traffic.Mistakable uart task)
    (overflowed : cut ≠ 0) (foreign : traffic.answer task ≠ some uart.fifo) :
    ¬ Acceptable (traffic.request task).count.toNat uart.fifo := by
  intro acceptable
  have long := acceptable.long
  have distinct := (List.nodup_append.mp held.nodup).1
  have few := (List.subperm_of_subset distinct (held.subset_of_cut listens overflowed)).length_le
  have enough := (held.cut_cases.resolve_left overflowed).1
  have inside := held.cut_le
  have fifo := held.fifo_eq
  have room : maxResponse = 256 := rfl
  match arrived, few with
  | [], _ =>
      simp only [List.map_nil, List.flatten_nil, List.length_nil] at inside
      omega
  | [chunk], _ =>
      have short := (bytes_spec (held.sendable List.mem_cons_self)).2.2
      simp only [List.map_cons, List.map_nil, List.flatten_cons, List.flatten_nil,
        List.append_nil] at inside
      omega
  | [first, second], _ =>
      have short := (bytes_spec (held.sendable List.mem_cons_self)).2.2
      simp only [List.map_cons, List.map_nil, List.flatten_cons, List.flatten_nil,
        List.append_nil, List.length_append] at inside fifo
      rw [List.drop_append, List.drop_eq_nil_of_le (by omega), List.nil_append] at fifo
      obtain rfl := held.own_tail listens clear acceptable foreign (by simp)
        (fifo ▸ List.drop_suffix _ _)
      have size := traffic.reply_length_le task
      rw [fifo, List.length_drop] at long
      omega

/-- A listening task that is not mistaken receives its own reply or nothing that it accepts. -/
theorem own_reply (held : traffic.Held uart arrived flying cut)
    (listens : rank (uart.progress task) = 3) (clear : ¬ traffic.Mistakable uart task)
    (acceptable : Acceptable (traffic.request task).count.toNat uart.fifo) :
    traffic.answer task = some uart.fifo := by
  rcases Nat.eq_zero_or_pos cut with rfl | positive
  · exact held.own_reply_whole listens clear acceptable
  · by_contra foreign
    exact held.not_acceptable_of_cut listens clear positive.ne' foreign acceptable

theorem clear (held : traffic.Held uart arrived flying cut) :
    traffic.Held { uart with fifo := [] } [] flying 0 where
  fifo_eq := rfl
  cut_le := Nat.zero_le _
  inFlight_eq := held.inFlight_eq
  nodup := (List.nodup_append.mp held.nodup).2.1
  replied sender member := held.replied sender (List.mem_append_right _ member)
  echoed _ member := absurd member List.not_mem_nil
  cut_cases := .inl rfl

/-- A task whose echo is not queued goes on. -/
theorem enter (held : traffic.Held uart arrived flying cut) (progress : Progress)
    (advances : rank progress = rank (uart.progress task) + 1) (silent : .echo task ∉ arrived) :
    traffic.Held (uart.enter task progress) arrived flying cut := by
  have grows (other : Task) :
      rank (uart.progress other) ≤ rank ((uart.enter task progress).progress other) := by
    by_cases same : other = task
    · subst same
      simp [Uart.enter, advances]
    · simp [Uart.enter, same]
  refine { held with replied := ?_, echoed := ?_, cut_cases := ?_ }
  · intro sender member
    exact ⟨(held.replied sender member).1, (held.replied sender member).2.trans (grows sender)⟩
  · intro sender member
    have different : sender ≠ task := fun same => silent (same ▸ member)
    simpa [Uart.enter, different] using held.echoed sender member
  · exact held.cut_cases.imp_right fun ⟨enough, reader, done⟩ =>
      ⟨enough, reader, done.trans (grows reader)⟩

theorem deliver (held : traffic.Held uart arrived (task :: flying) cut) :
    traffic.Held
      { uart with
        fifo := uart.fifo ++ traffic.bytes (.reply task)
        inFlight := flying.map fun task => traffic.bytes (.reply task) }
      (arrived ++ [.reply task]) flying cut := by
  have same : arrived ++ [Chunk.reply task] ++ flying.map Chunk.reply =
      arrived ++ (task :: flying).map Chunk.reply := by simp
  refine ⟨?_, ?_, rfl, same ▸ held.nodup, same ▸ held.replied, ?_, held.cut_cases⟩
  · simp [held.fifo_eq, List.drop_append_of_le_length held.cut_le]
  · have inside := held.cut_le
    simp only [List.map_append, List.flatten_append, List.length_append]
    omega
  · intro sender member
    exact held.echoed sender (by simpa using member)

theorem echo (held : traffic.Held uart arrived flying cut)
    (transmitted : rank (uart.progress task) = 2) (fresh : .echo task ∉ arrived) :
    traffic.Held { uart with fifo := uart.fifo ++ (traffic.request task).frame }
      (arrived ++ [.echo task]) flying cut := by
  refine ⟨?_, ?_, held.inFlight_eq, ?_, ?_, ?_, held.cut_cases⟩
  · simp [held.fifo_eq, List.drop_append_of_le_length held.cut_le, bytes]
  · have inside := held.cut_le
    simp only [List.map_append, List.flatten_append, List.length_append]
    omega
  · rw [List.append_assoc]
    exact List.perm_middle.nodup_iff.mpr (List.nodup_cons.mpr ⟨by simpa using fresh, held.nodup⟩)
  · intro sender member
    exact held.replied sender (by simpa using member)
  · intro sender member
    rcases List.mem_append.mp member with old | new
    · exact held.echoed sender old
    · obtain ⟨⟩ := List.mem_singleton.mp new
      exact transmitted

theorem answer (held : traffic.Held uart arrived flying cut)
    (transmitted : rank (uart.progress task) = 2)
    (fresh : .reply task ∉ arrived ++ flying.map Chunk.reply) :
    ∃ flying', traffic.Held
      { uart with inFlight := uart.inFlight ++ (traffic.answer task).toList }
      arrived flying' cut := by
  cases answered : traffic.answer task with
  | none => exact ⟨flying, by simpa using held⟩
  | some reply =>
      have same : arrived ++ (flying ++ [task]).map Chunk.reply =
          (arrived ++ flying.map Chunk.reply) ++ [.reply task] := by simp
      refine ⟨flying ++ [task], held.fifo_eq, held.cut_le, ?_, ?_, ?_, held.echoed,
        held.cut_cases⟩
      · simp [held.inFlight_eq, bytes, answered]
      · rw [same, ← List.concat_eq_append]
        exact List.Nodup.concat fresh held.nodup
      · intro sender member
        rw [same] at member
        rcases List.mem_append.mp member with old | new
        · exact held.replied sender old
        · obtain ⟨⟩ := List.mem_singleton.mp new
          exact ⟨by simp [answered], transmitted.ge⟩

theorem overflow (held : traffic.Held uart arrived flying cut)
    (done : 4 ≤ rank (uart.progress task)) (long : maxResponse < uart.fifo.length) :
    traffic.Held { uart with fifo := uart.fifo.drop maxResponse } arrived flying
      (cut + maxResponse) := by
  have inside := held.cut_le
  have size := congrArg List.length held.fifo_eq
  rw [List.length_drop] at size
  refine { held with fifo_eq := ?_, cut_le := ?_, cut_cases := ?_ }
  · rw [held.fifo_eq, List.drop_drop]
  · omega
  · exact .inr ⟨by omega, task, done⟩

end Held

/-! ## What every undisturbed step keeps -/

/-- A task that has received something that it accepts has received its own reply. -/
structure Sound (traffic : Traffic) (uart : Uart) : Prop where
  held : ∃ arrived flying cut, traffic.Held uart arrived flying cut
  crc : ∀ task frame, uart.progress task = .received (some frame) → validateCRC frame = true
  own : ∀ task frame, uart.progress task = .received (some frame) →
    Acceptable (traffic.request task).count.toNat frame → traffic.answer task = some frame
  correct : ∀ task data, uart.progress task = .finished true data → traffic.Correct task data

theorem receiveUntilIdle_some {fifo frame : Bytes} (received : receiveUntilIdle fifo = some frame) :
    frame = fifo ∧ validateCRC frame = true := by
  rw [receiveUntilIdle] at received
  split_ifs at received with long short valid
  obtain rfl := Option.some.inj received
  exact ⟨rfl, by simpa using valid⟩

theorem conclude_success {count : Word} {data : Nat → Word} {response : Option Bytes}
    (small : count.toNat ≤ 125)
    (valid : ∀ frame, response = some frame → validateCRC frame = true)
    (success : (conclude count data response).1 = true) :
    ∃ frame, response = some frame ∧ Acceptable count.toNat frame ∧
      (conclude count data response).2 = decodeWords frame count.toNat data := by
  cases response with
  | none => contradiction
  | some frame =>
      have parsed := parseReadResponse_eq small (valid frame rfl) data
      simp only [conclude, parsed] at success ⊢
      split_ifs at success ⊢ with accepted
      · exact ⟨frame, rfl, accepted.2, rfl⟩
      · simp at success

/-- The registers of the own reply are those that the task asked for. -/
theorem correct_of_answer {frame : Bytes} (answered : traffic.answer task = some frame)
    (acceptable : Acceptable (traffic.request task).count.toNat frame) (data : Nat → Word) :
    traffic.Correct task (decodeWords frame (traffic.request task).count.toNat data) := by
  obtain ⟨station, member, address, rfl | rfl⟩ := answer_cases answered
  · exact ⟨station, member, address, fun i inside => station.decodeWords_reply _ _ _ inside data⟩
  · have long := acceptable.long
    have positive := (traffic.request task).positive
    rw [Station.exception_length] at long
    omega

variable {uart after : Uart}

theorem Sound.start (traffic : Traffic) : traffic.Sound traffic.system.start where
  held := ⟨[], [], 0, rfl, le_rfl, rfl, List.nodup_nil, by simp, by simp, .inl rfl⟩
  crc := by simp [system]
  own := by simp [system]
  correct := by simp [system]

/-- A task goes on to a part of its transaction in which nothing is received. -/
theorem Sound.enter (sound : traffic.Sound uart) {progress : Progress}
    (held : ∃ arrived flying cut, traffic.Held after arrived flying cut)
    (moves : after.progress = Function.update uart.progress task progress)
    (few : rank progress ≤ 3) : traffic.Sound after := by
  have unchanged {other : Task} {later : Progress} (late : 4 ≤ rank later)
      (there : after.progress other = later) : uart.progress other = later := by
    rw [moves] at there
    by_cases same : other = task
    · subst same
      rw [Function.update_self] at there
      rw [there] at few
      omega
    · rwa [Function.update_of_ne same] at there
  exact
    { held
      crc := fun other frame there => sound.crc other frame (unchanged (by simp [rank]) there)
      own := fun other frame there => sound.own other frame (unchanged (by simp [rank]) there)
      correct := fun other data there =>
        sound.correct other data (unchanged (by simp [rank]) there) }

/-! ### One lemma for each step -/

theorem Sound.drain (sound : traffic.Sound uart) (ready : uart.progress task = .ready) :
    traffic.Sound { uart.enter task .drained with fifo := [] } := by
  obtain ⟨arrived, flying, cut, held⟩ := sound.held
  have silent : .echo task ∉ arrived := held.silent (by simp [rank, ready])
  refine sound.enter ⟨[], flying, 0, ?_⟩ rfl (by decide)
  exact (held.enter _ (by simp [rank, ready]) silent).clear

theorem Sound.transmit (sound : traffic.Sound uart) (drained : uart.progress task = .drained)
    (echo : Bool) :
    traffic.Sound { uart.enter task .transmitted with
      fifo := uart.fifo ++ if echo then (traffic.request task).frame else []
      inFlight := uart.inFlight ++ (traffic.answer task).toList } := by
  obtain ⟨arrived, flying, cut, held⟩ := sound.held
  have early : rank (uart.progress task) = 1 := by rw [drained]; rfl
  have silent : .echo task ∉ arrived := held.silent (by omega)
  have fresh := held.fresh (show rank (uart.progress task) < 2 by omega)
  have entered : traffic.Held (uart.enter task .transmitted) arrived flying cut :=
    held.enter _ (by rw [early]; rfl) silent
  have there : rank ((uart.enter task .transmitted).progress task) = 2 := by
    simp [Uart.enter, rank]
  refine sound.enter ?_ rfl (by decide)
  cases echo with
  | false =>
      obtain ⟨flying', answered⟩ := entered.answer there fresh
      simp only [Bool.false_eq_true, if_false, List.append_nil]
      exact ⟨_, _, _, answered⟩
  | true =>
      have echoed := entered.echo there silent
      obtain ⟨flying', answered⟩ := echoed.answer there (by simpa using fresh)
      exact ⟨_, _, _, answered⟩

theorem Sound.deliver (sound : traffic.Sound uart) {reply : Bytes} {replies : List Bytes}
    (queued : uart.inFlight = reply :: replies) :
    traffic.Sound { uart with fifo := uart.fifo ++ reply, inFlight := replies } := by
  obtain ⟨arrived, flying, cut, held⟩ := sound.held
  cases flying with
  | nil => simp [held.inFlight_eq] at queued
  | cons sender flying =>
      have split := held.inFlight_eq.symm.trans queued
      obtain ⟨rfl, rfl⟩ := List.cons.inj split
      exact ⟨⟨_, _, _, held.deliver⟩, sound.crc, sound.own, sound.correct⟩

theorem Sound.drainEcho (sound : traffic.Sound uart)
    (transmitted : uart.progress task = .transmitted) :
    traffic.Sound { uart.enter task .listening with fifo := [] } := by
  obtain ⟨arrived, flying, cut, held⟩ := sound.held
  refine sound.enter ⟨[], flying, 0, ?_⟩ rfl (by decide)
  exact held.clear.enter _ (by simp [rank, transmitted]) List.not_mem_nil

/-- A task that is not mistaken has received its own reply, if it accepts what it has received. -/
theorem Sound.receive (sound : traffic.Sound uart) (listening : uart.progress task = .listening)
    (undisturbed : ¬ traffic.Mistakable uart task) :
    traffic.Sound { uart.enter task (.received (receiveUntilIdle uart.fifo)) with
      fifo := uart.fifo.drop maxResponse } := by
  obtain ⟨arrived, flying, cut, held⟩ := sound.held
  have listens : rank (uart.progress task) = 3 := by rw [listening]; rfl
  have entered := held.enter (.received (receiveUntilIdle uart.fifo))
    (by rw [listens]; rfl) (held.silent (by omega))
  refine ⟨?_, ?_, ?_, ?_⟩
  · by_cases long : maxResponse < uart.fifo.length
    · have done : 4 ≤ rank
          ((uart.enter task (.received (receiveUntilIdle uart.fifo))).progress task) := by
        simp [Uart.enter, rank]
      exact ⟨_, _, _, entered.overflow done long⟩
    · simp only [List.drop_eq_nil_of_le (Nat.not_lt.mp long)]
      exact ⟨_, _, _, entered.clear⟩
  · intro other frame there
    rcases Uart.enter_cases there with ⟨-, now⟩ | before
    · exact (receiveUntilIdle_some (Progress.received.inj now)).2
    · exact sound.crc other frame before
  · intro other frame there acceptable
    rcases Uart.enter_cases there with ⟨rfl, now⟩ | before
    · obtain ⟨rfl, -⟩ := receiveUntilIdle_some (Progress.received.inj now)
      exact held.own_reply listens undisturbed acceptable
    · exact sound.own other frame before acceptable
  · intro other data there
    rcases Uart.enter_cases there with ⟨-, now⟩ | before
    · contradiction
    · exact sound.correct other data before

/-- What is taken from the own reply is correct. -/
theorem Sound.parse (sound : traffic.Sound uart) {response : Option Bytes}
    (received : uart.progress task = .received response) :
    let outcome := conclude (traffic.request task).count (traffic.buffer task) response
    traffic.Sound (uart.enter task (.finished outcome.1 outcome.2)) := by
  obtain ⟨arrived, flying, cut, held⟩ := sound.held
  have there : rank (uart.progress task) = 4 := by rw [received]; rfl
  refine ⟨⟨_, _, _, held.enter _ (by rw [there]; rfl) (held.silent (by omega))⟩, ?_, ?_, ?_⟩
  · intro other frame there
    rcases Uart.enter_cases there with ⟨-, now⟩ | before
    · contradiction
    · exact sound.crc other frame before
  · intro other frame there
    rcases Uart.enter_cases there with ⟨-, now⟩ | before
    · contradiction
    · exact sound.own other frame before
  · intro other data there
    rcases Uart.enter_cases there with ⟨rfl, now⟩ | before
    · obtain ⟨success, rfl⟩ := Progress.finished.inj now
      obtain ⟨frame, rfl, acceptable, decoded⟩ := conclude_success (traffic.request other).small
        (fun frame some_frame => sound.crc other frame (some_frame ▸ received)) success
      rw [decoded]
      exact correct_of_answer (sound.own other frame received acceptable) acceptable _
    · exact sound.correct other data before

theorem Sound.next {step : Step} (sound : traffic.Sound uart)
    (undisturbed : traffic.Undisturbed uart step) (moves : traffic.next uart step = some after) :
    traffic.Sound after := by
  cases step with
  | drain task =>
      rw [Traffic.next] at moves
      split at moves
      next ready => exact Option.some.inj moves ▸ sound.drain ready
      next => contradiction
  | transmit task echo =>
      rw [Traffic.next] at moves
      split at moves
      next drained => exact Option.some.inj moves ▸ sound.transmit drained echo
      next => contradiction
  | deliver =>
      rw [Traffic.next] at moves
      split at moves
      next => contradiction
      next reply replies queued => exact Option.some.inj moves ▸ sound.deliver queued
  | drainEcho task =>
      rw [Traffic.next] at moves
      split at moves
      next transmitted => exact Option.some.inj moves ▸ sound.drainEcho transmitted
      next => contradiction
  | receive task =>
      rw [Traffic.next] at moves
      split at moves
      next listening => exact Option.some.inj moves ▸ sound.receive listening undisturbed
      next => contradiction
  | parse task =>
      rw [Traffic.next] at moves
      split at moves
      next response received => exact Option.some.inj moves ▸ sound.parse received
      next => contradiction

/-- In a run without a receive step that can mistake a frame, a read that succeeds returns the
registers that it asked for. -/
theorem undisturbed_reads_correct (traffic : Traffic) {uart : Uart}
    (reach : traffic.system.Reaches traffic.Undisturbed uart) (task : Task) (data : Nat → Word)
    (finished : uart.progress task = .finished true data) : traffic.Correct task data :=
  (reach.invariant (Sound.start traffic) fun _ _ _ sound undisturbed moves =>
    sound.next undisturbed moves).correct task data finished

/-- The array of a successful read. -/
def result : Progress → Option (Nat → Word)
  | .finished true data => some data
  | _ => none

theorem finished_of_result {progress : Progress} {data : Nat → Word}
    (success : result progress = some data) : progress = .finished true data := by
  unfold result at success
  split at success
  · rw [Option.some.inj success]
  · contradiction

/-- Two registers of one server that holds addresses. -/
def twoReads : Traffic where
  stations := [⟨1, fun _ address => address⟩]
  request
    | .poller => ⟨1, .holding, 0, 1, by decide, by decide⟩
    | .web => ⟨1, .holding, 5, 1, by decide, by decide⟩
  buffer _ _ := 0

/-- Two reads whose steps alternate. Both requests are out before the first reply arrives. -/
theorem overlapping_reads_correct :
    ∃ uart : Uart, ∃ polled probed,
      result (uart.progress .poller) = some polled ∧ twoReads.Correct .poller polled ∧
      result (uart.progress .web) = some probed ∧ twoReads.Correct .web probed := by
  let turns : List Step :=
    [.drain .poller, .drain .web, .transmit .poller true, .transmit .web true,
      .drainEcho .poller, .drainEcho .web, .deliver, .receive .poller, .deliver, .parse .poller,
      .receive .web, .parse .web]
  let last := twoReads.system.run twoReads.Undisturbed twoReads.system.start turns
  obtain ⟨uart, runs⟩ : ∃ uart, last = some uart := Option.isSome_iff_exists.mp (by decide +kernel)
  have reach := StepSystem.Reaches.start.run runs
  have polls : (last.bind fun uart => result (uart.progress .poller)).isSome = true := by
    decide +kernel
  have probes : (last.bind fun uart => result (uart.progress .web)).isSome = true := by
    decide +kernel
  rw [runs, Option.bind_some] at polls probes
  obtain ⟨polled, poll⟩ := Option.isSome_iff_exists.mp polls
  obtain ⟨probed, probe⟩ := Option.isSome_iff_exists.mp probes
  exact ⟨uart, polled, probed,
    poll, undisturbed_reads_correct twoReads reach .poller polled (finished_of_result poll),
    probe, undisturbed_reads_correct twoReads reach .web probed (finished_of_result probe)⟩

/-- The poller sends and is then held up until the web task has lost the reply and got its own. -/
theorem poller_takes_web_reply :
    ¬ ∀ uart, twoReads.system.Reaches (fun _ _ => True) uart → ∀ task data,
      uart.progress task = .finished true data → twoReads.Correct task data := by
  intro correct
  let steps : List Step :=
    [.drain .poller, .transmit .poller false, .drainEcho .poller, .deliver, .drain .web,
      .transmit .web false, .drainEcho .web, .deliver, .receive .poller, .parse .poller]
  let last := twoReads.system.run (fun _ _ => True) twoReads.system.start steps
  obtain ⟨uart, runs⟩ : ∃ uart, last = some uart := Option.isSome_iff_exists.mp (by decide +kernel)
  have five : (last.bind fun uart => (result (uart.progress .poller)).map (· 0)) = some 5 := by
    decide +kernel
  rw [runs, Option.bind_some] at five
  obtain ⟨data, success, value⟩ := Option.map_eq_some_iff.mp five
  obtain ⟨station, member, -, registers⟩ :=
    correct uart (StepSystem.Reaches.start.run runs) .poller data (finished_of_result success)
  have zero := registers 0 (by decide)
  rw [List.mem_singleton.mp member, value] at zero
  exact absurd zero (by decide)

end Traffic

end ModbusBridge
