import Mathlib.Data.List.Induction
import ModbusBridge.LogStore.Refinement

/-!
# The drop counter

What the rolling segment evicts follows from the sizes of the records that are routed to it. It
evicts records, and the filler that closed the tail before them; the drop counter counts both.
-/

namespace ModbusBridge.LogStore

open Memory ESPLogger

/-! ## The rolling segment without its bytes -/

/-- The slots of the rolling segment, the position of the writer and all slots ever evicted. -/
structure Rolling where
  slots : List Slot
  writePos : Nat
  gone : List Slot

namespace Rolling

/-- The segment that `begin` has just initialised. -/
def empty : Rolling := ⟨[], 0, []⟩

/-- The effect of a record. -/
def append (rolling : Rolling) (record : Record) : Rolling where
  slots := appendKept rolling.writePos record.size rolling.slots ++ [.record record]
  writePos :=
    ((if rollCap - rolling.writePos < record.size then 0 else rolling.writePos) + record.size) %
      rollCap
  gone := rolling.gone ++ appendGone rolling.writePos record.size rolling.slots

/-- The segment after these records. -/
def after (routed : List Record) : Rolling := routed.foldl append empty

theorem after_concat (routed : List Record) (record : Record) :
    after (routed ++ [record]) = (after routed).append record := by
  simp [after]

/-- No record is lost but by eviction. -/
theorem records_after (routed : List Record) :
    routed = Slot.records (after routed).gone ++ Slot.records (after routed).slots := by
  induction routed using List.reverseRecOn with
  | nil => rfl
  | append_singleton routed record induction =>
      rw [after_concat, append]
      have kept := congrArg Slot.records (appendGone_append_appendKept
        { resetRing bootCap rollCap with writePos := (after routed).writePos } record.size
        (after routed).slots)
      simp only [Slot.records_append, records_tailFiller, List.append_nil] at kept
      simp only [Slot.records_append, Slot.records_record, Slot.records_nil]
      rw [← List.append_assoc, List.append_assoc (Slot.records _), ← kept, ← induction]

end Rolling

/-- A slot that holds no record. -/
def Slot.isFiller : Slot → Bool
  | .record _ => false
  | .filler _ => true

theorem length_eq_records_add_fillers (slots : List Slot) :
    slots.length = (Slot.records slots).length + slots.countP Slot.isFiller := by
  induction slots with
  | nil => rfl
  | cons slot slots induction =>
      cases slot with
      | record entry =>
          rw [List.countP_cons_of_neg Bool.false_ne_true, Slot.records_record, List.length_cons,
            List.length_cons, induction]
          omega
      | filler bytes =>
          rw [List.countP_cons_of_pos rfl, Slot.records_filler, List.length_cons, induction]
          omega

/-- The fillers that these records make the rolling segment evict. -/
def fillersEvicted (routed : List Record) : Nat := (Rolling.after routed).gone.countP Slot.isFiller

/-- What has been evicted and what is still there are the records routed, and the fillers. -/
theorem gone_add_kept (routed : List Record) :
    (Rolling.after routed).gone.length + (Slot.records (Rolling.after routed).slots).length =
      routed.length + fillersEvicted routed := by
  have records := congrArg List.length (Rolling.records_after routed)
  rw [List.length_append] at records
  rw [length_eq_records_add_fillers, fillersEvicted]
  omega

/-! ## The store -/

/-- RTC memory after these records were routed to the rolling segment. -/
structure Counts (rtc : Rtc) (routed : List Record) : Prop where
  stored : ∃ boot, Stored rtc boot (Rolling.after routed).slots
  writePos_eq : rtc.region.roll.writePos = (Rolling.after routed).writePos
  dropped_eq : rtc.region.dropped = UInt32.ofNat (Rolling.after routed).gone.length

namespace Counts

variable {rtc : Rtc} {routed : List Record} {record : Record} {text : CString}

theorem bumpSeq (counts : Counts rtc routed) : Counts rtc.bumpSeq routed :=
  ⟨counts.stored.imp fun _ stored => stored.bumpSeq, counts.writePos_eq, counts.dropped_eq⟩

theorem tail_writePos {w size : Nat} {r : Ring} (writePos : r.writePos = w) (inside : w < rollCap) :
    (w + (slotBytes (tailFiller r size) + size)) % rollCap =
      ((if rollCap - w < size then 0 else w) + size) % rollCap := by
  rw [tailFiller, writePos]
  split_ifs
  · have whole : w + (slotBytes [.filler (rollCap - w)] + size) = rollCap + (0 + size) := by
      simp only [slotBytes_cons, slotBytes_nil, Slot.size]
      omega
    rw [whole, Nat.add_mod_left]
  · rw [slotBytes_nil, Nat.zero_add]

theorem appendRolling (counts : Counts rtc routed)
    (body : text.bytes.take record.body.length = record.body) :
    Counts (rtc.appendRolling record.header text) (routed ++ [record]) := by
  obtain ⟨boot, stored⟩ := counts.stored
  have appends := appendCircular_slots stored.queued body rtc.region.dropped
  have inside := stored.queued.writePos_lt
  rw [Rtc.appendRolling]
  generalize appendCircular rtc.region.roll rtc.data record.header text.bytes rtc.region.dropped =
    result at appends ⊢
  obtain ⟨roll, data, last⟩ := result
  obtain ⟨queued, dropped, bootKept, writePos⟩ := appends
  rw [tail_writePos rfl inside] at writePos
  rw [counts.writePos_eq] at queued dropped writePos
  have length : (Rolling.after (routed ++ [record])).gone.length =
      (Rolling.after routed).gone.length +
        (appendGone (Rolling.after routed).writePos record.size
          (Rolling.after routed).slots).length := by
    rw [Rolling.after_concat, Rolling.append, List.length_append]
  refine ⟨⟨boot, ?_⟩, ?_, ?_⟩
  · rw [Rolling.after_concat]
    exact stored.setRolling bootKept queued last
  · rw [Rolling.after_concat]
    exact writePos
  · rw [length, UInt32.ofNat_add, ← counts.dropped_eq]
    exact dropped

theorem route_boot {ts : UInt32} {boot : List Record} (counts : Counts rtc routed)
    (stored : Stored rtc boot (Rolling.after routed).slots)
    (body : text.bytes.take record.body.length = record.body) (window : ts < logBootWindowMs)
    (room : Record.bytes boot + record.size ≤ bootCap) :
    Counts (rtc.route record.header text ts) routed := by
  obtain ⟨ring, data, same, -⟩ := stored.held.route_boot body window room
  obtain ⟨after, -⟩ := stored.route_boot body window room
  refine ⟨⟨_, after⟩, ?_, ?_⟩
  · rw [same]
    exact counts.writePos_eq
  · rw [same]
    exact counts.dropped_eq

/-- A warm `begin` keeps the rolling segment and its counter. -/
theorem restarted (counts : Counts rtc routed) (reason : UInt32) :
    Stored (rtc.restarted reason) [] (Rolling.after routed).slots ∧
      Counts (rtc.restarted reason) routed := by
  obtain ⟨boot, stored⟩ := counts.stored
  have kept : rtc.region.recover = { rtc.region with bootCount := rtc.region.bootCount + 1 } := by
    simp [Region.recover, stored.valid]
  rw [Rtc.restarted, kept]
  have empty : Stored { rtc with region :=
      { rtc.region with
        bootCount := rtc.region.bootCount + 1, resetReason := reason
        boot := resetRing 0 bootCap } } [] (Rolling.after routed).slots :=
    ⟨stored.magic_eq, stored.version_eq, BootHeld.empty rtc.data, stored.queued⟩
  exact ⟨empty, ⟨⟨_, empty⟩, counts.writePos_eq, counts.dropped_eq⟩⟩

end Counts

/-- A cold `begin` wipes the rolling segment and its counter. -/
theorem counts_wiped {rtc : Rtc} (invalid : rtc.region.valid = false) (reason : UInt32) :
    Stored (rtc.restarted reason) [] [] ∧ Counts (rtc.restarted reason) [] := by
  have wiped : rtc.region.recover = { rtc.region with
      magic := lsMagic, version := lsVersion, pad := 0, seq := 0, dropped := 0, bootCount := 1
      roll := resetRing bootCap rollCap } := by
    simp [Region.recover, invalid]
  rw [Rtc.restarted, wiped]
  have empty : Stored { rtc with region := { rtc.region with
      magic := lsMagic, version := lsVersion, pad := 0, seq := 0, dropped := 0, bootCount := 1
      roll := resetRing bootCap rollCap, resetReason := reason, boot := resetRing 0 bootCap } }
      [] [] :=
    ⟨rfl, rfl, BootHeld.empty rtc.data, Queued.empty rtc.data⟩
  exact ⟨empty, ⟨⟨_, empty⟩, rfl, rfl⟩⟩

/-! ## Calls -/

/-- The record that `sink` makes of a message. -/
def Record.ofMessage (level : LogLevel) (message : CString) (ts : UInt32) : Record where
  level := level.code
  flags := if u16 message.strlen > logStoreMaxMsg then flagTruncated else 0
  ts := ts
  body := message.bytes.take (min (u16 message.strlen) logStoreMaxMsg)
  short := (List.length_take_le _ _).trans (Nat.min_le_right _ _)
  noNul := fun byte member => message.noNul byte (List.mem_of_mem_take member)
  noFiller := by split <;> decide

theorem u16_strlen_le (message : CString) : u16 message.strlen ≤ message.bytes.length :=
  Nat.mod_le _ _

theorem Record.length_ofMessage (level : LogLevel) (message : CString) (ts : UInt32) :
    (ofMessage level message ts).body.length = min (u16 message.strlen) logStoreMaxMsg := by
  have inside := u16_strlen_le message
  rw [ofMessage, List.length_take]
  omega

theorem Record.take_ofMessage (level : LogLevel) (message : CString) (ts : UInt32) :
    message.bytes.take (ofMessage level message ts).body.length =
      (ofMessage level message ts).body := by
  rw [length_ofMessage]
  rfl

theorem lineHeader_ofMessage (level : LogLevel) (message : CString) (ts : UInt32) :
    lineHeader level message ts = (Record.ofMessage level message ts).header := by
  rw [Record.header, Record.length_ofMessage, lineHeader]
  simp only [Record.ofMessage]
  split_ifs with long
  · rw [Nat.min_eq_right (Nat.le_of_lt long)]
  · rw [Nat.min_eq_left (Nat.le_of_not_lt long)]

/-- A call of the log store: any message at all, or another boot. -/
inductive Logging
  | sink (level : LogLevel) (message : Option CString) (ts : UInt32)
  | begin (build : Build) (reason : UInt32)

/-- The effect of a call. -/
def Logging.onStore (store : Store) : Logging → Store
  | sink level message ts => LogStore.sink store level message ts
  | begin build reason => LogStore.begin build reason store.rtc

/-- The records that a call routes to the rolling segment. -/
def Logging.routed (store : Store) : Logging → List Record
  | sink _ none _ => []
  | sink level (some message) ts =>
      if store.capture.shouldCapture level ts ∧ ¬(ts < logBootWindowMs ∧
          (appendBoot store.rtc.region.boot store.rtc.data (lineHeader level message ts)
            message.bytes).isSome) then
        [.ofMessage level message ts]
      else []
  | begin build reason => [.ofMarker (markerLine build store.rtc.region.recover.bootCount reason)]

/-- A run: the store, and all records routed to the rolling segment. -/
def run (start : Store × List Record) (calls : List Logging) : Store × List Record :=
  calls.foldl (fun before call => (call.onStore before.1, before.2 ++ call.routed before.1)) start

/-- The first boot, on a region that `begin` initialises. -/
def firstBoot (build : Build) (reason : UInt32) (rtc : Rtc) : Store × List Record :=
  (begin build reason rtc, (Logging.begin build reason).routed ⟨rtc, .fresh⟩)

theorem counts_begin {rtc : Rtc} {routed : List Record} {reason : UInt32} (build : Build)
    (stored : Stored (rtc.restarted reason) [] (Rolling.after routed).slots)
    (counts : Counts (rtc.restarted reason) routed) : Counts (begin build reason rtc).rtc
      (routed ++ (Logging.begin build reason).routed ⟨rtc, .fresh⟩) := by
  rw [begin_eq build reason rtc rfl, Logging.routed]
  dsimp only
  generalize markerLine build rtc.region.recover.bootCount reason = marker
  have small := (Record.ofLine .info marker 0).size_bounds
  have capacity : bootCap = 5120 := rfl
  have room : Record.bytes [] + (Record.ofLine .info marker 0).size ≤ bootCap := by
    simp only [Record.bytes, List.map_nil, List.sum_nil]
    omega
  have booted := counts.route_boot stored (Record.take_ofLine .info marker 0)
    (show (0 : UInt32) < logBootWindowMs by decide) room
  exact (booted.bumpSeq.appendRolling (Record.take_ofMarker marker)).bumpSeq

theorem Counts.sink {store : Store} {routed : List Record} (counts : Counts store.rtc routed)
    (level : LogLevel) (message : Option CString) (ts : UInt32) :
    Counts (LogStore.sink store level message ts).rtc
      (routed ++ (Logging.sink level message ts).routed store) := by
  cases message with
  | none => simpa [LogStore.sink, Logging.routed] using counts
  | some message =>
      obtain ⟨boot, stored⟩ := counts.stored
      have body := Record.take_ofMessage level message ts
      rw [LogStore.sink, Logging.routed, lineHeader_ofMessage]
      generalize Record.ofMessage level message ts = record at body
      simp only [stored.fits_iff body]
      by_cases captured : store.capture.shouldCapture level ts = true
      · simp only [captured, if_true, true_and, ite_not]
        by_cases early : ts < logBootWindowMs ∧ Record.bytes boot + record.size ≤ bootCap
        · rw [if_pos early, List.append_nil]
          exact (counts.route_boot stored body early.1 early.2).bumpSeq
        · rw [if_neg early, stored.held.route_rolling early]
          exact (counts.appendRolling body).bumpSeq
      · simpa [captured] using counts

theorem Counts.call {store : Store} {routed : List Record} (counts : Counts store.rtc routed)
    (call : Logging) : Counts (call.onStore store).rtc (routed ++ call.routed store) := by
  cases call with
  | sink level message ts => exact counts.sink level message ts
  | begin build reason =>
      obtain ⟨stored, restarted⟩ := counts.restarted reason
      exact counts_begin build stored restarted

theorem counts_firstBoot (build : Build) (reason : UInt32) {rtc : Rtc}
    (invalid : rtc.region.valid = false) :
    Counts (firstBoot build reason rtc).1.rtc (firstBoot build reason rtc).2 := by
  obtain ⟨stored, wiped⟩ := counts_wiped invalid reason
  exact counts_begin build stored wiped

theorem counts_run {start : Store × List Record} (counts : Counts start.1.rtc start.2)
    (calls : List Logging) : Counts (run start calls).1.rtc (run start calls).2 := by
  induction calls generalizing start with
  | nil => exact counts
  | cons call calls induction => exact induction (counts.call call)

/-! ## The balance -/

/-- The records of the rolling segment that a download shows. -/
def readable (lines : List (Section × Bytes)) : Nat :=
  lines.countP fun line => line.1 = .rolling

/-- The counter and the readable records are the records routed, and the fillers evicted. -/
theorem Counts.balance {store : Store} {routed : List Record} (counts : Counts store.rtc routed)
    {outSize : Nat} (wide : lineMax < outSize) :
    ∃ lines last, drain store outSize = some (lines, last) ∧
      store.rtc.region.dropped + UInt32.ofNat (readable lines) =
        UInt32.ofNat (routed.length + fillersEvicted routed) := by
  obtain ⟨boot, stored⟩ := counts.stored
  obtain ⟨last, drained, -⟩ := drain_eq wide stored.held stored.queued
  refine ⟨_, last, drained, ?_⟩
  have shown : readable (boot.map (fun entry => (Section.boot, entry.line)) ++
      (Slot.records (Rolling.after routed).slots).map fun entry => (Section.rolling, entry.line)) =
        (Slot.records (Rolling.after routed).slots).length := by
    simp [readable, List.countP_append, List.countP_map, Function.comp_def]
  rw [shown, counts.dropped_eq, ← UInt32.ofNat_add, gone_add_kept]

/-- From a boot that initialises the region on, whatever is logged and however often the chip boots
again, the drop counter is exact if and only if the fillers evicted are none, modulo 2^32. -/
theorem drops_exact_iff (build : Build) (reason : UInt32) {rtc : Rtc}
    (invalid : rtc.region.valid = false) (calls : List Logging) {outSize : Nat}
    (wide : lineMax < outSize) :
    let after := run (firstBoot build reason rtc) calls
    ∃ lines last, drain after.1 outSize = some (lines, last) ∧
      (after.1.rtc.region.dropped + UInt32.ofNat (readable lines) =
          UInt32.ofNat after.2.length ↔ fillersEvicted after.2 % 2 ^ 32 = 0) := by
  have counts := counts_run (counts_firstBoot build reason invalid) calls
  obtain ⟨lines, last, drained, balance⟩ := counts.balance wide
  refine ⟨lines, last, drained, ?_⟩
  rw [balance, ← UInt32.toNat_inj, UInt32.toNat_ofNat', UInt32.toNat_ofNat']
  omega

/-- The same error again and again. -/
def storm (line : Line) (count : Nat) : List Logging :=
  List.replicate count (.sink .error (some line.text) 70000)

/-- Fifteen errors, a reboot, and more of them. -/
def rebooted (line : Line) (count : Nat) : List Logging :=
  storm line 15 ++ .begin .unknown 1 :: storm line count

/-- The first fifteen errors of 160 letters evict lines only. Behind the reboot, twelve more evict
the filler that the twelfth one left. -/
theorem drops_exact_iff_reboot :
    let long := Line.xs 160 (by decide)
    let early := run (firstBoot .unknown 1 .zero) (rebooted long 0)
    let late := run (firstBoot .unknown 1 .zero) (rebooted long 12)
    early.1.rtc.region.dropped ≠ 0 ∧
    (∃ lines last, drain early.1 224 = some (lines, last) ∧
      early.1.rtc.region.dropped + UInt32.ofNat (readable lines) =
        UInt32.ofNat early.2.length) ∧
    ∃ lines last, drain late.1 224 = some (lines, last) ∧
      late.1.rtc.region.dropped + UInt32.ofNat (readable lines) ≠
        UInt32.ofNat late.2.length := by
  intro long early late
  have invalid : Rtc.zero.region.valid = false := by decide
  have kept : fillersEvicted early.2 % 2 ^ 32 = 0 := by decide +kernel
  have evicted : fillersEvicted late.2 % 2 ^ 32 ≠ 0 := by decide +kernel
  refine ⟨by decide +kernel, ?_, ?_⟩
  · obtain ⟨lines, last, drained, exact_iff⟩ :=
      drops_exact_iff .unknown 1 invalid (rebooted long 0) (show lineMax < 224 by decide)
    exact ⟨lines, last, drained, exact_iff.mpr kept⟩
  · obtain ⟨lines, last, drained, exact_iff⟩ :=
      drops_exact_iff .unknown 1 invalid (rebooted long 12) (show lineMax < 224 by decide)
    exact ⟨lines, last, drained, fun same => evicted (exact_iff.mp same)⟩

/-- The 23rd error of 160 letters evicts the filler that the twelfth one left. -/
theorem drops_inexact :
    let after := run (firstBoot .unknown 1 .zero) (storm (.xs 160 (by decide)) 23)
    ∃ lines last, drain after.1 224 = some (lines, last) ∧
      after.1.rtc.region.dropped + UInt32.ofNat (readable lines) ≠
        UInt32.ofNat after.2.length := by
  have invalid : Rtc.zero.region.valid = false := by decide
  have counts := counts_run (counts_firstBoot .unknown 1 invalid)
    (storm (.xs 160 (by decide)) 23)
  obtain ⟨lines, last, drained, balance⟩ := counts.balance (show lineMax < 224 by decide)
  refine ⟨lines, last, drained, ?_⟩
  rw [balance]
  decide +kernel

end ModbusBridge.LogStore
