import ModbusBridge.LogStore.SingleStores

/-!
# Whatever RTC memory holds

The validity check of `begin` looks at a few fields of the region header, so the rolling segment may
hold any bytes. Its bookkeeping fields stay in range all the same. The boot segment starts empty on
every boot and is well formed from then on.
-/

namespace ModbusBridge.LogStore

open Memory BlockRing ESPLogger

/-- The bookkeeping fields of the rolling segment are in range. -/
structure Ranged (r : Ring) : Prop where
  base_eq : r.base = bootCap
  cap_eq : r.cap = rollCap
  writePos_lt : r.writePos < rollCap
  readStart_lt : r.readStart < rollCap
  used_le : r.used ≤ rollCap

theorem ranged_reset : Ranged (resetRing bootCap rollCap) :=
  ⟨rfl, rfl, by decide, by decide, by decide⟩

/-- The validity check of `begin` is all that is needed. -/
theorem ranged_recover (region : Region) : Ranged region.recover.roll := by
  rw [Region.recover]
  cases valid : region.valid with
  | false =>
      rw [if_neg Bool.false_ne_true]
      exact ranged_reset
  | true =>
      rw [if_pos rfl]
      simp only [Region.valid, Bool.and_eq_true, beq_iff_eq, decide_eq_true_eq] at valid
      obtain ⟨⟨⟨⟨⟨⟨⟨-, base⟩, cap⟩, -⟩, -⟩, writePos⟩, readStart⟩, used⟩ := valid
      exact ⟨base, cap, writePos, readStart, used⟩

theorem need_bounds {len : Nat} (short : len ≤ logStoreMaxMsg) :
    hdr + len ≤ u16 (hdr + roundUp4 len) ∧ u16 (hdr + roundUp4 len) ≤ 168 := by
  rw [roundUp4_eq short]
  simp only [logStoreMaxMsg] at short
  simp only [hdr]
  rw [u16_of_lt (by omega)]
  omega

/-! ## Eviction -/

/-- The guard of the loop of `evict`. -/
def Evicts (r : Ring) (need : Nat) : Prop := r.used + need > r.cap ∧ r.used > 0

/-- The size of a record is a 16-bit number, so it can be zero. -/
theorem evictLoop_ends (data : Nat → UInt8) (need fuel : Nat) (r : Ring) (dropped : UInt32)
    (bound : r.used < 65536) (enough : r.used ≤ fuel) :
    ¬ Evicts (evictLoop data need fuel r dropped).1 need := by
  induction fuel generalizing r dropped with
  | zero => exact fun guard => by have some : r.used > 0 := guard.2; omega
  | succ fuel induction =>
      rw [evictLoop]
      split_ifs with guard
      · dsimp only
        split_ifs with torn
        · rintro ⟨-, some⟩
          exact absurd some (Nat.lt_irrefl 0)
        · have left : sub16 r.used (recordSizeAt data r r.readStart) =
              r.used - recordSizeAt data r r.readStart := sub16_of_le (by omega) bound
          exact induction _ _ (by rw [left]; dsimp only; omega) (by rw [left]; dsimp only; omega)
      · exact guard

/-- On any contents, `evict` ends because it has made room or because nothing is left. -/
theorem evict_ends (data : Nat → UInt8) (r : Ring) (need : Nat) (dropped : UInt32)
    (bound : r.used < 65536) : ¬ Evicts (evict data r need dropped).1 need :=
  evictLoop_ends data need r.used r dropped bound le_rfl

/-- A segment in range after an eviction. -/
structure MadeRoom (need : Nat) (before after : Ring) : Prop where
  ranged : Ranged after
  room : after.used + need ≤ rollCap
  writePos : after.writePos = before.writePos ∨ after.writePos = 0

/-- A position in the segment loses nothing in its cast. -/
theorem Ranged.position {r : Ring} (ranged : Ranged r) (n : Nat) :
    u16 (n % r.cap) = n % rollCap := by
  have small := Nat.mod_lt n (show 0 < rollCap by decide)
  have capacity : rollCap = 2048 := rfl
  rw [ranged.cap_eq, u16_of_lt (by omega)]

/-- Nor does what is left of the used bytes. -/
theorem Ranged.left {r : Ring} (ranged : Ranged r) {sz : Nat} (inside : sz ≤ r.used) :
    sub16 r.used sz = r.used - sz := by
  have used := ranged.used_le
  have capacity : rollCap = 2048 := rfl
  exact sub16_of_le inside (by omega)

/-- One turn of the loop, as far as the fields are concerned. -/
theorem Ranged.evict_turn {r : Ring} (ranged : Ranged r) {sz : Nat} (some : 0 < sz)
    (inside : sz ≤ r.used) :
    Ranged { r with readStart := u16 ((r.readStart + sz) % r.cap), used := sub16 r.used sz } ∧
      sub16 r.used sz < r.used := by
  have used := ranged.used_le
  have wrapped : u16 ((r.readStart + sz) % r.cap) < rollCap := by
    rw [ranged.position]
    exact Nat.mod_lt _ (by decide)
  have left := ranged.left inside
  exact ⟨⟨ranged.base_eq, ranged.cap_eq, ranged.writePos_lt, wrapped,
    show sub16 r.used sz ≤ rollCap by omega⟩, by omega⟩

theorem evictLoop_ranged (data : Nat → UInt8) {need : Nat} (fits : need ≤ rollCap) (fuel : Nat)
    {r : Ring} (ranged : Ranged r) (enough : r.used ≤ fuel) (dropped : UInt32) :
    MadeRoom need r (evictLoop data need fuel r dropped).1 := by
  induction fuel generalizing r dropped with
  | zero => exact ⟨ranged, show r.used + need ≤ rollCap by omega, .inl rfl⟩
  | succ fuel induction =>
      rw [evictLoop]
      split_ifs with guard
      · dsimp only
        split_ifs with torn
        · rw [ranged.base_eq, ranged.cap_eq]
          exact ⟨ranged_reset, by dsimp only [resetRing]; omega, .inr rfl⟩
        · obtain ⟨next, less⟩ := ranged.evict_turn (Nat.pos_of_ne_zero fun zero => torn (.inl zero))
            (Nat.le_of_not_lt fun beyond => torn (.inr beyond))
          obtain ⟨last, room, writePos⟩ := induction next (by dsimp only; omega) (dropped + 1)
          exact ⟨last, room, writePos⟩
      · have used := ranged.used_le
        rw [ranged.cap_eq] at guard
        exact ⟨ranged, show r.used + need ≤ rollCap by omega, .inl rfl⟩

theorem evict_ranged (data : Nat → UInt8) {need : Nat} (fits : need ≤ rollCap) {r : Ring}
    (ranged : Ranged r) (dropped : UInt32) : MadeRoom need r (evict data r need dropped).1 :=
  evictLoop_ranged data fits r.used ranged le_rfl dropped

/-! ## Appending -/

/-- Where a record goes: at the writer's position, and not beyond the end of the segment. -/
structure Placed (need : Nat) (data data' : Nat → UInt8) (after : Ring) : Prop where
  ranged : Ranged after
  tail : after.writePos + need ≤ rollCap
  boot_eq : ∀ i, i < bootCap → data' i = data i

theorem Ranged.address {r : Ring} (ranged : Ranged r) :
    u16 (r.base + r.writePos) = bootCap + r.writePos := by
  have inside := ranged.writePos_lt
  have capacity : bootCap + rollCap = 7168 := rfl
  rw [ranged.base_eq, u16_of_lt (by omega)]

theorem Ranged.tailGap {r : Ring} (ranged : Ranged r) :
    sub16 r.cap r.writePos = rollCap - r.writePos := by
  have inside := ranged.writePos_lt
  have capacity : rollCap = 2048 := rfl
  rw [ranged.cap_eq, sub16_of_le (by omega) (by omega)]

/-- The tail becomes filler, and the writer restarts at 0. -/
theorem MadeRoom.close {gap : Nat} {before after : Ring} (made : MadeRoom gap before after) :
    Ranged { after with used := u16 (after.used + gap), writePos := 0 } := by
  have room := made.room
  have capacity : rollCap = 2048 := rfl
  have total : u16 (after.used + gap) = after.used + gap := u16_of_lt (by omega)
  exact ⟨made.ranged.base_eq, made.ranged.cap_eq, show 0 < rollCap by decide,
    made.ranged.readStart_lt, total.le.trans room⟩

/-- An eviction leaves the writer where it is, or moves it to the front. -/
theorem MadeRoom.tail {need : Nat} {before after : Ring} (made : MadeRoom need before after)
    (fits : need ≤ rollCap) (tail : before.writePos + need ≤ rollCap) :
    after.writePos + need ≤ rollCap := by
  rcases made.writePos with same | front
  · rw [same]
    exact tail
  · rw [front]
    omega

/-- The record at the end of a segment with room for it. -/
theorem Ranged.push {r : Ring} (ranged : Ranged r) {need : Nat} (room : r.used + need ≤ rollCap) :
    Ranged { r with
      writePos := u16 ((r.writePos + need) % r.cap), used := u16 (r.used + need) } := by
  have capacity : rollCap = 2048 := rfl
  have total : u16 (r.used + need) = r.used + need := u16_of_lt (by omega)
  have wrapped : u16 ((r.writePos + need) % r.cap) < rollCap := by
    rw [ranged.position]
    exact Nat.mod_lt _ (by decide)
  exact ⟨ranged.base_eq, ranged.cap_eq, wrapped, ranged.readStart_lt, total.le.trans room⟩

theorem fillTail_ranged (data : Nat → UInt8) {r : Ring} (ranged : Ranged r) (dropped : UInt32)
    {need : Nat} (fits : need ≤ rollCap) :
    Placed need data (fillTail r data dropped need).2.1 (fillTail r data dropped need).1 := by
  have inside := ranged.writePos_lt
  rw [fillTail, ranged.tailGap]
  dsimp only
  by_cases tight : rollCap - r.writePos < need
  · have made := evict_ranged data (show rollCap - r.writePos ≤ rollCap by omega) ranged dropped
    rw [if_pos tight]
    refine ⟨made.close, show 0 + need ≤ rollCap by omega, fun i below => ?_⟩
    dsimp only
    split_ifs with wide
    · rw [writeHdr, made.ranged.address]
      exact write_outside (.inl (by omega))
    · rfl
  · rw [if_neg tight]
    exact ⟨ranged, show r.writePos + need ≤ rollCap by omega, fun _ _ => rfl⟩

/-- A record is written from its place on. -/
theorem writeRecord_below (data : Nat → UInt8) (header : Header) (msg : Bytes) (need : Nat)
    {off i : Nat} (below : i < off) : writeRecord data off header msg need i = data i := by
  rw [writeRecord, write_outside (.inl (by omega)), write_outside (.inl (by omega)), writeHdr,
    write_outside (.inl below)]

/-- Whatever the rolling segment holds, a record keeps its fields in range and leaves the boot
segment alone. -/
theorem appendCircular_ranged (data : Nat → UInt8) {r : Ring} (ranged : Ranged r) {header : Header}
    (short : header.len ≤ logStoreMaxMsg) (msg : Bytes) (dropped : UInt32) :
    Ranged (appendCircular r data header msg dropped).1 ∧
      ∀ i, i < bootCap → (appendCircular r data header msg dropped).2.1 i = data i := by
  have capacity : rollCap = 2048 := rfl
  have need := need_bounds short
  have fits : u16 (hdr + roundUp4 header.len) ≤ rollCap := by omega
  have filled := fillTail_ranged data ranged dropped fits
  rcases closed : fillTail r data dropped (u16 (hdr + roundUp4 header.len)) with
    ⟨middle, data', count⟩
  rw [closed] at filled
  have made := evict_ranged data' fits filled.ranged count
  rcases evicted : evict data' middle (u16 (hdr + roundUp4 header.len)) count with ⟨after, last⟩
  rw [evicted] at made
  rw [appendCircular_eq msg rfl closed evicted]
  refine ⟨made.ranged.push made.room, fun i below => ?_⟩
  dsimp only
  rw [made.ranged.address, writeRecord_below _ _ _ _ (by omega)]
  exact filled.boot_eq i below

/-! ## Records of any text -/

theorem lineHeader_len (level : LogLevel) (text : CString) (ts : UInt32) :
    (lineHeader level text ts).len ≤ logStoreMaxMsg ∧
      (lineHeader level text ts).len ≤ text.bytes.length := by
  have wrapped : u16 text.strlen ≤ text.bytes.length := Nat.mod_le _ _
  unfold lineHeader
  dsimp only
  split_ifs with long
  · exact ⟨le_rfl, show logStoreMaxMsg ≤ text.bytes.length by omega⟩
  · exact ⟨show u16 text.strlen ≤ logStoreMaxMsg by omega, wrapped⟩

theorem lineHeader_flags (level : LogLevel) (text : CString) (ts : UInt32) :
    (lineHeader level text ts).flags &&& flagWrap = 0 := by
  unfold lineHeader
  dsimp only
  split_ifs
  · exact show flagTruncated &&& flagWrap = 0 by decide
  · exact show (0 : UInt8) &&& flagWrap = 0 by decide

/-- The record that `sink` makes of a text of any length. -/
def Record.ofText (level : LogLevel) (text : CString) (ts : UInt32) : Record where
  level := (lineHeader level text ts).level
  flags := (lineHeader level text ts).flags
  ts := (lineHeader level text ts).ts
  body := text.bytes.take (lineHeader level text ts).len
  short := (List.length_take_le _ _).trans (lineHeader_len level text ts).1
  noNul := fun byte member => text.noNul byte (List.mem_of_mem_take member)
  noFiller := lineHeader_flags level text ts

theorem Record.ofText_length (level : LogLevel) (text : CString) (ts : UInt32) :
    (ofText level text ts).body.length = (lineHeader level text ts).len := by
  rw [ofText, List.length_take, Nat.min_eq_left (lineHeader_len level text ts).2]

theorem Record.ofText_header (level : LogLevel) (text : CString) (ts : UInt32) :
    (ofText level text ts).header = lineHeader level text ts := by
  rw [header, ofText_length]
  rfl

theorem Record.take_ofText (level : LogLevel) (text : CString) (ts : UInt32) :
    text.bytes.take (ofText level text ts).body.length = (ofText level text ts).body := by
  rw [ofText_length]
  rfl

/-! ## The store -/

/-- The boot segment holds the given records, and the rolling one may hold anything. -/
structure Intact (rtc : Rtc) (boot : List Record) : Prop where
  held : BootHeld rtc.data rtc.region.boot boot
  ranged : Ranged rtc.region.roll

namespace Intact

variable {rtc : Rtc} {boot : List Record}

theorem setRolling (intact : Intact rtc boot) {roll : Ring} {data : Nat → UInt8}
    (ranged : Ranged roll) (kept : ∀ i, i < bootCap → data i = rtc.data i) (dropped : UInt32) :
    Intact (rtc.setRolling roll data dropped) boot :=
  ⟨intact.held.congr kept, ranged⟩

theorem appendRolling (intact : Intact rtc boot) {header : Header}
    (short : header.len ≤ logStoreMaxMsg) (text : CString) :
    Intact (rtc.appendRolling header text) boot := by
  obtain ⟨ranged, kept⟩ :=
    appendCircular_ranged rtc.data intact.ranged short text.bytes rtc.region.dropped
  rw [Rtc.appendRolling]
  exact intact.setRolling ranged kept _

theorem bumpSeq (intact : Intact rtc boot) : Intact rtc.bumpSeq boot :=
  ⟨intact.held, intact.ranged⟩

end Intact

/-- The records of the boot segment after a record that is logged at some time. -/
def bootAfter (boot : List Record) (record : Record) (ts : UInt32) : List Record :=
  if ts < logBootWindowMs ∧ Record.bytes boot + record.size ≤ bootCap then boot ++ [record]
  else boot

theorem shouldCapture_window (capture : Capture) (level : LogLevel) {ts : UInt32}
    (window : ts < logBootWindowMs) : capture.shouldCapture level ts = true := by
  rw [Capture.shouldCapture]
  rw [if_pos window, ite_self]

theorem Intact.route {rtc : Rtc} {boot : List Record} (intact : Intact rtc boot)
    {record : Record} {text : CString} (body : text.bytes.take record.body.length = record.body)
    (ts : UInt32) : Intact (rtc.route record.header text ts) (bootAfter boot record ts) := by
  rw [bootAfter]
  split_ifs with early
  · obtain ⟨ring, data, routed, held, -⟩ := intact.held.route_boot body early.1 early.2
    rw [routed]
    exact ⟨held, intact.ranged⟩
  · rw [intact.held.route_rolling early]
    exact intact.appendRolling record.short text

/-- A logged line of any length keeps the store intact. -/
theorem Intact.sink {store : Store} {boot : List Record} (intact : Intact store.rtc boot)
    (level : LogLevel) (text : CString) (ts : UInt32) :
    Intact (LogStore.sink store level (some text) ts).rtc
      (bootAfter boot (Record.ofText level text ts) ts) := by
  rw [LogStore.sink]
  dsimp only
  split_ifs with captured
  · rw [← Record.ofText_header]
    exact (intact.route (Record.take_ofText level text ts) ts).bumpSeq
  · have late : ¬ ts < logBootWindowMs := fun window =>
      captured (shouldCapture_window store.capture level window)
    rw [bootAfter, if_neg fun early => late early.1]
    exact intact

/-- The arguments of a call of `sink`. -/
structure SinkCall where
  level : LogLevel
  message : Option CString
  timestamp : UInt32

/-- The call. -/
def SinkCall.onStore (store : Store) (call : SinkCall) : Store :=
  LogStore.sink store call.level call.message call.timestamp

/-- The record that a call logs, if it logs one, within the boot window. -/
def SinkCall.offer (call : SinkCall) : Option Record :=
  if call.timestamp < logBootWindowMs then
    call.message.map fun message => Record.ofText call.level message call.timestamp
  else none

theorem SinkCall.mem_offer {call : SinkCall} {record : Record} :
    record ∈ call.offer ↔ call.timestamp < logBootWindowMs ∧
      ∃ message ∈ call.message, Record.ofText call.level message call.timestamp = record := by
  rw [SinkCall.offer]
  split_ifs with window
  · simp [window]
  · simp [window]

/-- The boot segment takes the record of a call exactly if it has one and it fits. -/
theorem Intact.onStore {store : Store} {boot : List Record} (intact : Intact store.rtc boot)
    (call : SinkCall) :
    Intact (call.onStore store).rtc (boot ++
      call.offer.toList.filter fun record => Record.bytes boot + record.size ≤ bootCap) := by
  obtain ⟨level, message, ts⟩ := call
  cases message with
  | none => simpa [SinkCall.onStore, SinkCall.offer, LogStore.sink] using intact
  | some message =>
      have after := intact.sink level message ts
      rw [bootAfter] at after
      rw [SinkCall.onStore, SinkCall.offer]
      by_cases window : ts < logBootWindowMs
      · by_cases room : Record.bytes boot + (Record.ofText level message ts).size ≤ bootCap
        · simpa [window, room] using after
        · simpa [window, room] using after
      · simpa [window] using after

/-- The call adds a record to the boot segment. -/
def SinkCall.Placed (store : Store) (call : SinkCall) : Prop :=
  (call.onStore store).rtc.region.boot ≠ store.rtc.region.boot

instance (store : Store) (call : SinkCall) : Decidable (call.Placed store) :=
  inferInstanceAs (Decidable (_ ≠ _))

/-- The records determine the fields of the boot segment. -/
theorem BootHeld.ring_eq {data data' : Nat → UInt8} {r r' : Ring} {boot : List Record}
    (first : BootHeld data r boot) (second : BootHeld data' r' boot) : r = r' := by
  have base := first.base_eq.trans second.base_eq.symm
  have cap := first.cap_eq.trans second.cap_eq.symm
  have writePos := first.writePos_eq.trans second.writePos_eq.symm
  have readStart := first.readStart_eq.trans second.readStart_eq.symm
  have used := first.used_eq.trans (writePos.trans second.used_eq.symm)
  obtain ⟨_, _, _, _, _⟩ := r
  obtain ⟨_, _, _, _, _⟩ := r'
  exact Ring.mk.injEq .. ▸ ⟨base, cap, writePos, readStart, used⟩

theorem Intact.placed_iff {store : Store} {boot : List Record} (intact : Intact store.rtc boot)
    (call : SinkCall) :
    call.Placed store ↔ ∃ record ∈ call.offer, Record.bytes boot + record.size ≤ bootCap := by
  have after := intact.onStore call
  cases offered : call.offer with
  | none =>
      rw [offered] at after
      have same := after.held.ring_eq (by simpa using intact.held)
      simp [SinkCall.Placed, same]
  | some record =>
      rw [offered] at after
      by_cases room : Record.bytes boot + record.size ≤ bootCap
      · refine iff_of_true (fun same => ?_) ⟨record, rfl, room⟩
        have longer := after.held.writePos_eq
        have positive := record.size_bounds.2.1
        rw [same, intact.held.writePos_eq] at longer
        simp [room, Slot.size, hdr] at longer positive
        omega
      · have same := after.held.ring_eq (by simpa [room] using intact.held)
        simp [SinkCall.Placed, same, room]

/-- The marker of a boot. -/
def Rtc.marker (build : Build) (reason : UInt32) (rtc : Rtc) : CString :=
  bootMarker build rtc.region.recover.bootCount reason

/-- The boot segment holds the marker after `begin`, whatever RTC memory held before. -/
theorem begin_intact (build : Build) (reason : UInt32) (rtc : Rtc) :
    Intact (begin build reason rtc).rtc
      [Record.ofText .info (rtc.marker build reason) 0] := by
  have restarted : Intact (rtc.restarted reason) [] :=
    ⟨BootHeld.empty rtc.data, ranged_recover rtc.region⟩
  have first := @Intact.sink ⟨rtc.restarted reason, .fresh⟩ [] restarted .info
    (rtc.marker build reason) 0
  have size := (Record.ofText .info (rtc.marker build reason) 0).size_bounds
  have capacity : bootCap = 5120 := rfl
  have room :
      Record.bytes [] + (Record.ofText .info (rtc.marker build reason) 0).size ≤ bootCap := by
    simp only [Record.bytes, List.map_nil, List.sum_nil]
    omega
  rw [bootAfter, if_pos ⟨by decide, room⟩] at first
  have short : u16 (rtc.marker build reason).strlen ≤ logStoreMaxMsg :=
    (Nat.mod_le _ _).trans (bootMarker_strlen_lt build _ _).le
  let header : Header :=
    { len := u16 (rtc.marker build reason).strlen, level := LogLevel.info.code, flags := flagBoot,
      ts := 0 }
  exact (@Intact.appendRolling _ _ first header short _).bumpSeq

end ModbusBridge.LogStore
