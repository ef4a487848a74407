import ModbusBridge.Library.RingWalk
import ModbusBridge.Library.StepSystem
import ModbusBridge.LogStore.Ranges

/-!
# Salvage

`evict` resets the rolling segment when it comes to a record of inconsistent size. An append evicts
twice: for the filler of a tail that is too short, and for the record. After a reset in the second
pass the segment holds the record and nothing else. After a reset in the first pass the filler of
the old tail is counted all the same.
-/

namespace ModbusBridge.LogStore

open Memory BlockRing ESPLogger

/-! ## Which evictions salvage -/

/-- The bytes that `appendCircular` needs for a record. -/
def Header.need (header : Header) : Nat := u16 (hdr + roundUp4 header.len)

/-- A walk over the used bytes of a segment, from record to record by `recordSizeAt`. -/
def Ring.Walks (data : Nat → UInt8) (r : Ring) (places : List Nat) (stop rest : Nat) : Prop :=
  Walk r.cap (recordSizeAt data r) r.readStart r.used places stop rest

/-- What makes `evict` reset the segment: before `need` fits, it stands at a record whose size is
inconsistent. -/
def Salvages (data : Nat → UInt8) (need : Nat) (r : Ring) : Prop :=
  ∃ places stop rest, r.Walks data places stop rest ∧ (rest + need > r.cap ∧ rest > 0) ∧
    (recordSizeAt data r stop = 0 ∨ recordSizeAt data r stop > rest)

variable {data data' : Nat → UInt8} {r : Ring} {need : Nat}

/-- The segment after a turn of the eviction loop that takes a record. -/
theorem Ranged.turn_eq (ranged : Ranged r) {sz : Nat} (inside : sz ≤ r.used) :
    { r with readStart := u16 ((r.readStart + sz) % r.cap), used := sub16 r.used sz } =
      { r with readStart := (r.readStart + sz) % r.cap, used := r.used - sz } := by
  rw [ranged.position, ranged.left inside, ranged.cap_eq]

/-- A record of consistent size decides nothing. -/
theorem salvages_turn
    (consistent : 0 < recordSizeAt data r r.readStart ∧ recordSizeAt data r r.readStart ≤ r.used) :
    Salvages data need
        { r with
          readStart := (r.readStart + recordSizeAt data r r.readStart) % r.cap
          used := r.used - recordSizeAt data r r.readStart } ↔
      Salvages data need r := by
  refine Iff.symm (Walk.exists_iff.trans ?_)
  constructor
  · rintro (⟨-, torn⟩ | ⟨-, later⟩)
    · omega
    · exact later
  · exact fun later => .inr ⟨consistent, later⟩

/-- What `evict` does to a segment in range: it resets it, or it takes the records that it walks
over off the front. -/
structure EvictedBySize (data : Nat → UInt8) (need : Nat) (before after : Ring) : Prop where
  reset : Salvages data need before → after = resetRing bootCap rollCap
  taken : ¬Salvages data need before →
    ∃ places, before.Walks data places after.readStart after.used ∧
      after = { before with readStart := after.readStart, used := after.used }

theorem evictLoop_bySize (fuel : Nat) (ranged : Ranged r) (enough : r.used ≤ fuel)
    (dropped : UInt32) :
    EvictedBySize data need r (evictLoop data need fuel r dropped).1 := by
  induction fuel generalizing r dropped with
  | zero =>
      refine ⟨?_, fun _ => ⟨[], .nil _ _, rfl⟩⟩
      rintro ⟨places, stop, rest, walk, ⟨-, some⟩, -⟩
      have later := walk.rest_le
      omega
  | succ fuel induction =>
      rw [evictLoop]
      by_cases guard : r.used + need > r.cap ∧ r.used > 0
      · rw [if_pos guard]
        dsimp only
        by_cases torn : recordSizeAt data r r.readStart = 0 ∨
            recordSizeAt data r r.readStart > r.used
        · rw [if_pos torn, ranged.base_eq, ranged.cap_eq]
          exact ⟨fun _ => rfl, fun kept => absurd ⟨[], _, _, .nil _ _, guard, torn⟩ kept⟩
        · have consistent : 0 < recordSizeAt data r r.readStart ∧
              recordSizeAt data r r.readStart ≤ r.used := by omega
          obtain ⟨next, less⟩ := ranged.evict_turn consistent.1 consistent.2
          have later := induction next (by dsimp only; omega) (dropped + 1)
          rw [if_neg torn]
          rw [ranged.turn_eq consistent.2] at later ⊢
          refine ⟨fun salvages => later.reset ((salvages_turn consistent).mpr salvages),
            fun kept => ?_⟩
          obtain ⟨places, walk, same⟩ := later.taken (mt (salvages_turn consistent).mp kept)
          exact ⟨_ :: places, .cons consistent.1 consistent.2 walk, same⟩
      · rw [if_neg guard]
        refine ⟨?_, fun _ => ⟨[], .nil _ _, rfl⟩⟩
        rintro ⟨places, stop, rest, walk, ⟨full, some⟩, -⟩
        have later := walk.rest_le
        exact absurd ⟨by omega, by omega⟩ guard

/-- `evict` resets the segment exactly if it comes to an inconsistent size. -/
theorem evict_bySize (ranged : Ranged r) (dropped : UInt32) :
    EvictedBySize data need r (evict data r need dropped).1 :=
  evictLoop_bySize r.used ranged le_rfl dropped

/-! ## The two passes of an append -/

/-- The tail cannot hold the record, and the eviction for its filler resets the segment. -/
def FirstPassSalvages (data : Nat → UInt8) (r : Ring) (header : Header) : Prop :=
  sub16 r.cap r.writePos < header.need ∧ Salvages data (sub16 r.cap r.writePos) r

/-- The eviction for the record resets the segment. -/
def SecondPassSalvages (data : Nat → UInt8) (r : Ring) (header : Header) (dropped : UInt32) :
    Prop :=
  let (r, data, _) := fillTail r data dropped header.need
  Salvages data header.need r

/-- The segment with a record at its front, and that many bytes more than the record in use. -/
def frontRing (more need : Nat) : Ring :=
  { resetRing bootCap rollCap with writePos := need, used := more + need }

variable {header : Header}

/-- A record needs some bytes, and at most 168 of the 2048. -/
theorem Header.need_bounds (short : header.len ≤ logStoreMaxMsg) :
    0 < header.need ∧ header.need ≤ 168 := by
  obtain ⟨longer, small⟩ := LogStore.need_bounds short
  exact ⟨(Nat.add_pos_left (show 0 < hdr by decide) _).trans_le longer, small⟩

/-- What an append stores in the fields of a segment that has been reset. -/
theorem frontRing_eq {more need : Nat} (small : need ≤ 168) (room : more + need ≤ rollCap) :
    { resetRing bootCap rollCap with
      writePos := u16 ((0 + need) % rollCap), used := u16 (more + need) } =
        frontRing more need := by
  have capacity : rollCap = 2048 := rfl
  rw [frontRing, Nat.zero_add, Nat.mod_eq_of_lt (by omega), u16_of_lt (by omega),
    u16_of_lt (by omega)]

/-- An append that finds the reader and the writer at the front. -/
theorem appendCircular_front {count last dropped : UInt32} {middle : Ring} {more : Nat}
    (msg : Bytes) (short : header.len ≤ logStoreMaxMsg) (room : more + header.need ≤ rollCap)
    (filled : fillTail r data dropped header.need = (middle, data', count))
    (evicted : evict data' middle header.need count =
      ({ resetRing bootCap rollCap with used := more }, last)) :
    appendCircular r data header msg dropped =
      (frontRing more header.need, writeRecord data' bootCap header msg header.need, last) := by
  have address : u16 (bootCap + 0) = bootCap := rfl
  rw [appendCircular_eq msg (rfl : _ = header.need) filled evicted,
    ← frontRing_eq (Header.need_bounds short).2 room]
  simp only [resetRing, address]

/-- After a reset in the second pass, nothing but the record is in use. -/
theorem appendCircular_secondPass (ranged : Ranged r) (short : header.len ≤ logStoreMaxMsg)
    (msg : Bytes) {dropped : UInt32} (salvages : SecondPassSalvages data r header dropped) :
    ∃ data' last, appendCircular r data header msg dropped =
      (frontRing 0 header.need, writeRecord data' bootCap header msg header.need, last) := by
  have small := (Header.need_bounds short).2
  have capacity : rollCap = 2048 := rfl
  have fits : header.need ≤ rollCap := by omega
  have placed := fillTail_ranged data ranged dropped fits
  rw [SecondPassSalvages] at salvages
  rcases filled : fillTail r data dropped header.need with ⟨middle, data', count⟩
  rw [filled] at placed salvages
  have reset := (evict_bySize placed.ranged count).reset salvages
  exact ⟨data', _, appendCircular_front msg short (by omega) filled (Prod.ext reset rfl)⟩

/-- After a reset in the first pass, the bytes of the old tail are in use behind the record. -/
theorem appendCircular_firstPass (ranged : Ranged r) (short : header.len ≤ logStoreMaxMsg)
    (msg : Bytes) (dropped : UInt32) (salvages : FirstPassSalvages data r header) :
    ∃ data' last, appendCircular r data header msg dropped =
      (frontRing (rollCap - r.writePos) header.need,
        writeRecord data' bootCap header msg header.need, last) := by
  have small := (Header.need_bounds short).2
  have capacity : rollCap = 2048 := rfl
  obtain ⟨tight, salvages⟩ := salvages
  have reset := (evict_bySize ranged dropped).reset salvages
  rcases evicted : evict data r (sub16 r.cap r.writePos) dropped with ⟨after, count⟩
  rw [evicted] at reset
  obtain rfl : after = resetRing bootCap rollCap := reset
  have filled := fillTail_eq tight evicted
  rw [ranged.tailGap] at filled tight
  have room : rollCap - r.writePos + header.need ≤ rollCap := by omega
  have gap : u16 ((resetRing bootCap rollCap).used + (rollCap - r.writePos)) =
      rollCap - r.writePos := by
    rw [resetRing, Nat.zero_add, u16_of_lt (by omega)]
  rw [gap] at filled
  exact ⟨_, count, appendCircular_front msg short room filled (evictLoop_stop _ room)⟩

/-! ## Self-consistent segments -/

/-- The record that was appended last, with that header, lies at the place: it ends where the writer
stands. -/
def IsNewest (data : Nat → UInt8) (r : Ring) (header : Header) (place : Nat) : Prop :=
  (place + recordSizeAt data r place) % r.cap = r.writePos ∧
    readHdr data (r.base + place) = header

/-- Filler as `fillTail` leaves it lies at the place: a tail too short for a header, or one with the
header of a filler. -/
def IsFiller (data : Nat → UInt8) (r : Ring) (place : Nat) : Prop :=
  place + hdr > r.cap ∨ readHdr data (r.base + place) = fillerHeader

/-- The used bytes are walked exactly, by way of the newest record and of filler only, and the walk
ends where the writer stands. -/
def SelfConsistent (data : Nat → UInt8) (r : Ring) (header : Header) : Prop :=
  ∃ places, r.Walks data places r.writePos 0 ∧
    ∀ place ∈ places, IsNewest data r header place ∨ IsFiller data r place

/-- A record reads back with its header. -/
theorem readHdr_writeRecord (data : Nat → UInt8) (off : Nat) (header : Header) (msg : Bytes)
    (need : Nat) (short : header.len ≤ logStoreMaxMsg) :
    readHdr (writeRecord data off header msg need) off = header := by
  have longest : logStoreMaxMsg = 160 := rfl
  refine readHdr_of_holds (by omega) ((holds_write data off _).congr fun i _ inside => ?_)
  have header_end : i < off + hdr := inside
  rw [writeRecord, write_outside (.inl (by omega)), write_outside (.inl header_end)]
  rfl

/-- The size of a record that is no filler, from its header. -/
theorem recordSizeAt_of_header {place : Nat} (plain : header.flags &&& flagWrap = 0)
    (inside : place + hdr ≤ r.cap) (read : readHdr data (u16 (r.base + place)) = header) :
    recordSizeAt data r place = header.need := by
  rw [recordSizeAt, if_neg (Nat.not_lt.mpr inside), read]
  dsimp only
  rw [if_neg (not_not.mpr plain), Header.need]

/-- How far the used bytes reach beyond the writer. -/
def Ring.overhang (r : Ring) : Nat := (r.readStart + r.used + (r.cap - r.writePos)) % r.cap

/-- The used bytes of a self-consistent segment end at the writer. -/
theorem SelfConsistent.overhang_eq (consistent : SelfConsistent data r header)
    (ranged : Ranged r) : r.overhang = 0 := by
  obtain ⟨places, walk, -⟩ := consistent
  have ends : r.writePos = (r.readStart + (r.used - 0)) % r.cap :=
    walk.stop_eq (ranged.cap_eq ▸ ranged.readStart_lt)
  have capacity : r.cap = 2048 := ranged.cap_eq
  rw [Ring.overhang]
  rw [capacity] at ends ⊢
  omega

theorem frontRing_overhang {more need : Nat} (behind : more < rollCap) (inside : need ≤ rollCap) :
    (frontRing more need).overhang = more := by
  have distance : (frontRing more need).overhang =
      (0 + (more + need) + (2048 - need)) % 2048 := rfl
  have capacity : rollCap = 2048 := rfl
  omega

/-- A record at the front of a segment that has nothing else in use. -/
theorem selfConsistent_front (data : Nat → UInt8) (msg : Bytes)
    (short : header.len ≤ logStoreMaxMsg) (plain : header.flags &&& flagWrap = 0) :
    SelfConsistent (writeRecord data bootCap header msg header.need) (frontRing 0 header.need)
      header := by
  obtain ⟨positive, small⟩ := Header.need_bounds short
  have capacity : rollCap = 2048 := rfl
  have written := readHdr_writeRecord data bootCap header msg header.need short
  have size : recordSizeAt (writeRecord data bootCap header msg header.need)
      (frontRing 0 header.need) 0 = header.need :=
    recordSizeAt_of_header plain (show 0 + hdr ≤ rollCap by decide) written
  have position : (0 + header.need) % rollCap = header.need := by
    rw [Nat.zero_add, Nat.mod_eq_of_lt (by omega)]
  have walk : Walk rollCap (recordSizeAt (writeRecord data bootCap header msg header.need)
      (frontRing 0 header.need)) 0 (0 + header.need) [0] header.need 0 := by
    refine .cons (by omega) (by omega) ?_
    rw [size, position, Nat.add_sub_cancel]
    exact .nil _ _
  refine ⟨[0], walk, fun place member => .inl ?_⟩
  rw [List.mem_singleton.mp member]
  refine ⟨?_, written⟩
  rw [size]
  exact position

/-! ## What the two passes leave -/

/-- The validity check of `begin` keeps the fields in range. -/
theorem ranged_of_valid {region : Region} (valid : region.valid = true) : Ranged region.roll := by
  have ranged := ranged_recover region
  rwa [Region.recover, if_pos valid] at ranged

/-- Nothing else of the rolling segment is looked at. -/
theorem valid_setRolling {rtc : Rtc} (valid : rtc.region.valid = true) (ranged : Ranged r)
    (data : Nat → UInt8) (dropped : UInt32) :
    (rtc.setRolling r data dropped).region.valid = true := by
  rw [Rtc.setRolling]
  simp only [Region.valid, Bool.and_eq_true, beq_iff_eq, decide_eq_true_eq] at valid ⊢
  obtain ⟨⟨⟨⟨⟨⟨⟨kept, -⟩, -⟩, bootWriter⟩, bootUsed⟩, -⟩, -⟩, -⟩ := valid
  exact ⟨⟨⟨⟨⟨⟨⟨kept, ranged.base_eq⟩, ranged.cap_eq⟩, bootWriter⟩, bootUsed⟩,
    ranged.writePos_lt⟩, ranged.readStart_lt⟩, ranged.used_le⟩

/-- An append leaves a region that `begin` accepts as well. -/
theorem valid_appendRolling {rtc : Rtc} (valid : rtc.region.valid = true)
    (short : header.len ≤ logStoreMaxMsg) (text : CString) :
    (rtc.appendRolling header text).region.valid = true := by
  have appended := appendCircular_ranged rtc.data (ranged_of_valid valid) short text.bytes
    rtc.region.dropped
  rw [Rtc.appendRolling]
  exact valid_setRolling valid appended.1 _ _

/-- The old tail overhangs after a reset in the first pass. -/
theorem firstPass_overhang (ranged : Ranged r) (short : header.len ≤ logStoreMaxMsg)
    (msg : Bytes) (dropped : UInt32) (salvages : FirstPassSalvages data r header) :
    (appendCircular r data header msg dropped).1.overhang = rollCap - r.writePos ∧
      0 < rollCap - r.writePos := by
  have small := (Header.need_bounds short).2
  have capacity : rollCap = 2048 := rfl
  have inside := ranged.writePos_lt
  have tight := salvages.1
  rw [ranged.tailGap] at tight
  obtain ⟨data', last, same⟩ := appendCircular_firstPass ranged short msg dropped salvages
  rw [same]
  exact ⟨frontRing_overhang (by omega) (by omega), by omega⟩

/-- So the used bytes do not end at the writer. -/
theorem firstPass_inconsistent (ranged : Ranged r) (short : header.len ≤ logStoreMaxMsg)
    (msg : Bytes) (dropped : UInt32) (salvages : FirstPassSalvages data r header) :
    let after := appendCircular r data header msg dropped
    ¬SelfConsistent after.2.1 after.1 header := by
  dsimp only
  intro consistent
  have aligned := consistent.overhang_eq (appendCircular_ranged data ranged short msg dropped).1
  obtain ⟨overhang, some⟩ := firstPass_overhang ranged short msg dropped salvages
  exact some.ne' (overhang.symm.trans aligned)

/-- Whatever a region that `begin` accepts holds: an append that resets the rolling segment leaves
it self-consistent exactly when the first pass has not reset it. -/
theorem salvage_consistent_iff {region : Region} (valid : region.valid = true)
    (data : Nat → UInt8) {header : Header} (short : header.len ≤ logStoreMaxMsg)
    (plain : header.flags &&& flagWrap = 0) (msg : Bytes) (dropped : UInt32)
    (salvages : FirstPassSalvages data region.roll header ∨
      SecondPassSalvages data region.roll header dropped) :
    let after := appendCircular region.roll data header msg dropped
    SelfConsistent after.2.1 after.1 header ↔ ¬FirstPassSalvages data region.roll header := by
  have ranged := ranged_of_valid valid
  dsimp only
  constructor
  · intro consistent first
    exact firstPass_inconsistent ranged short msg dropped first consistent
  · intro later
    obtain ⟨data', last, same⟩ :=
      appendCircular_secondPass ranged short msg (salvages.resolve_left later)
    rw [same]
    exact selfConsistent_front data' msg short plain

/-- A region whose rolling segment is full, with the writer at that position. -/
def fullRegion (writePos : Nat) : Region where
  magic := lsMagic
  version := lsVersion
  pad := 0
  boot := resetRing 0 bootCap
  roll := { base := bootCap, cap := rollCap, writePos, readStart := 0, used := rollCap }
  seq := 0
  dropped := 0
  bootCount := 1
  resetReason := 1

/-- Data with a record at the front of the rolling segment that is said to have 4096 bytes. -/
def garbled (address : Nat) : UInt8 := if address = bootCap + 1 then 16 else 0

/-- A line that fits between the writer and the end of the segment. -/
theorem salvage_consistent_iff_front :
    let text := (Line.xs 44 (by decide)).text
    let header := lineHeader .error text 70000
    let after := appendCircular (fullRegion 0).roll garbled header text.bytes 0
    SelfConsistent after.2.1 after.1 header ↔
      ¬FirstPassSalvages garbled (fullRegion 0).roll header := by
  refine salvage_consistent_iff (by decide) garbled (by decide) (by decide) _ 0 (.inr ?_)
  rw [SecondPassSalvages, fillTail_of_not (by decide)]
  exact ⟨[], 0, rollCap, .nil _ _, by decide, .inr (by decide)⟩

/-- A line that is four bytes longer than the tail: the 48 bytes of the tail stay in use. -/
theorem salvage_inconsistent :
    let text := (Line.xs 44 (by decide)).text
    let header := lineHeader .error text 70000
    let after := appendCircular (fullRegion 2000).roll garbled header text.bytes 0
    (fullRegion 2000).valid = true ∧ FirstPassSalvages garbled (fullRegion 2000).roll header ∧
      ¬SelfConsistent after.2.1 after.1 header := by
  intro text header after
  have valid : (fullRegion 2000).valid = true := by decide
  have short : header.len ≤ logStoreMaxMsg := by decide
  have first : FirstPassSalvages garbled (fullRegion 2000).roll header :=
    ⟨by decide, [], 0, rollCap, .nil _ _, by decide, .inr (by decide)⟩
  exact ⟨valid, first, firstPass_inconsistent (ranged_of_valid valid) short text.bytes 0 first⟩

/-! ## What the store has built itself -/

/-- A segment that queues slots is walked from slot to slot, up to the writer. -/
theorem Queued.walk {slots : List Slot} (queued : Queued data r slots) :
    ∃ places, r.Walks data places r.writePos 0 ∧
      List.Forall₂ (Slot.Held rollCap (cells data r)) places slots := by
  obtain ⟨places, walk, lie⟩ := queued.chain.walk fun held =>
    recordSizeAt_eq queued.addressable (queued.cap_eq.symm ▸ held)
  refine ⟨places, ?_, lie⟩
  rw [Ring.Walks, queued.cap_eq, queued.used_eq]
  exact walk

/-- So its sizes are consistent, and no append resets it. -/
theorem Queued.not_salvages {slots : List Slot} (queued : Queued data r slots) :
    ¬Salvages data need r := by
  rintro ⟨places, stop, rest, walk, ⟨-, some⟩, torn⟩
  obtain ⟨all, whole, -⟩ := queued.walk
  have consistent := whole.size_le walk some
  omega

/-- A reset in the second pass leaves a segment like those that the store builds. -/
theorem secondPass_queued {record : Record} {msg : Bytes} (ranged : Ranged r)
    (body : msg.take record.body.length = record.body) {dropped : UInt32}
    (salvages : SecondPassSalvages data r record.header dropped) :
    let after := appendCircular r data record.header msg dropped
    Queued after.2.1 after.1 [.record record] := by
  have capacity : rollCap = 2048 := rfl
  have bounds := record.size_bounds
  have need : record.header.need = record.size := record.need_eq
  obtain ⟨data', last, same⟩ := appendCircular_secondPass ranged record.short msg salvages
  have written : Queued _ _ ([] ++ [.record record]) := (Queued.empty data').write
    (show 0 + record.size ≤ rollCap by omega) (show 0 + record.size ≤ rollCap by omega)
  dsimp only
  rw [same, need, writeRecord_eq data' bootCap record msg body,
    ← frontRing_eq (by omega) (by omega)]
  exact written

/-! ## Runs without a reset -/

/-- Eviction moves neither the writer nor the end of the used bytes. -/
theorem evict_overhang (ranged : Ranged r) (kept : ¬Salvages data need r) (dropped : UInt32) :
    let after := (evict data r need dropped).1
    after.writePos = r.writePos ∧ after.overhang = r.overhang := by
  obtain ⟨places, walk, same⟩ := (evict_bySize ranged dropped).taken kept
  generalize (evict data r need dropped).1 = after at walk same
  have left := walk.rest_le
  have stands : after.readStart = (r.readStart + (r.used - after.used)) % r.cap :=
    walk.stop_eq (ranged.cap_eq ▸ ranged.readStart_lt)
  have capacity : r.cap = 2048 := ranged.cap_eq
  have writer : after.writePos = r.writePos := by rw [same]
  have size : after.cap = r.cap := by rw [same]
  refine ⟨writer, ?_⟩
  rw [Ring.overhang, Ring.overhang, writer, size]
  rw [capacity] at stands ⊢
  omega

/-- Closing the tail moves the writer and the end of the used bytes alike. -/
theorem fillTail_overhang (ranged : Ranged r) (kept : ¬FirstPassSalvages data r header)
    (dropped : UInt32) :
    (fillTail r data dropped header.need).1.overhang = r.overhang := by
  by_cases tight : sub16 r.cap r.writePos < header.need
  · have narrow : sub16 r.cap r.writePos ≤ rollCap := by
      rw [ranged.tailGap]
      exact Nat.sub_le _ _
    obtain ⟨writer, stays⟩ :=
      evict_overhang ranged (fun salvages => kept ⟨tight, salvages⟩) dropped
    have made := evict_ranged data narrow ranged dropped
    rcases evicted : evict data r (sub16 r.cap r.writePos) dropped with ⟨after, count⟩
    rw [evicted] at writer stays made
    dsimp only at writer
    have capacity : after.cap = 2048 := made.ranged.cap_eq
    have inside : after.writePos < rollCap := made.ranged.writePos_lt
    have room : after.used + sub16 r.cap r.writePos ≤ rollCap := made.room
    have size : rollCap = 2048 := rfl
    rw [fillTail_eq tight evicted, ← stays, ranged.tailGap, Ring.overhang, Ring.overhang]
    rw [ranged.tailGap] at room
    dsimp only
    rw [u16_of_lt (by omega), capacity]
    omega
  · rw [fillTail_of_not tight]

/-- A record moves the writer and the end of the used bytes alike. -/
theorem appendCircular_overhang (ranged : Ranged r) (short : header.len ≤ logStoreMaxMsg)
    (msg : Bytes) {dropped : UInt32} (first : ¬FirstPassSalvages data r header)
    (second : ¬SecondPassSalvages data r header dropped) :
    (appendCircular r data header msg dropped).1.overhang = r.overhang := by
  have small := (Header.need_bounds short).2
  have capacity : rollCap = 2048 := rfl
  have fits : header.need ≤ rollCap := by omega
  have placed := fillTail_ranged data ranged dropped fits
  have stays := fillTail_overhang ranged first dropped
  rw [SecondPassSalvages] at second
  rcases filled : fillTail r data dropped header.need with ⟨middle, data', count⟩
  rw [filled] at placed stays second
  have made := evict_ranged data' fits placed.ranged count
  obtain ⟨-, kept⟩ := evict_overhang placed.ranged second count
  rcases evicted : evict data' middle header.need count with ⟨after, last⟩
  rw [evicted] at made kept
  have size : after.cap = 2048 := made.ranged.cap_eq
  have inside : after.writePos < rollCap := made.ranged.writePos_lt
  have room : after.used + header.need ≤ rollCap := made.room
  rw [appendCircular_eq msg (rfl : _ = header.need) filled evicted, ← stays, ← kept]
  dsimp only
  rw [made.ranged.position, Ring.overhang, Ring.overhang]
  dsimp only
  rw [u16_of_lt (by omega), size, capacity]
  omega

/-- What is appended: a header, and the message that it is for. -/
structure Append where
  header : Header
  msg : Bytes
  short : header.len ≤ logStoreMaxMsg

/-- The append resets the segment, in one of its passes. -/
def Append.Salvages (append : Append) (segment : Ring × (Nat → UInt8) × UInt32) : Prop :=
  FirstPassSalvages segment.2.1 segment.1 append.header ∨
    SecondPassSalvages segment.2.1 segment.1 append.header segment.2.2

/-- A segment that is appended to: its fields, the data and the drop counter. -/
def appending (start : Ring × (Nat → UInt8) × UInt32) :
    StepSystem (Ring × (Nat → UInt8) × UInt32) Append where
  start := start
  next segment append :=
    some (appendCircular segment.1 segment.2.1 append.header append.msg segment.2.2)

/-- In a run without a reset, the used bytes reach beyond the writer as far as they did before. -/
theorem appending_overhang {start segment : Ring × (Nat → UInt8) × UInt32}
    (ranged : Ranged start.1)
    (reach : (appending start).Reaches (fun segment append => ¬append.Salvages segment) segment) :
    Ranged segment.1 ∧ segment.1.overhang = start.1.overhang := by
  refine @StepSystem.Reaches.invariant _ _ _ _ _
    (fun last => Ranged last.1 ∧ last.1.overhang = start.1.overhang) reach ⟨ranged, rfl⟩ ?_
  rintro before append after ⟨within, same⟩ kept moves
  obtain ⟨first, second⟩ := not_or.mp kept
  obtain rfl := Option.some.inj moves
  have stays := appendCircular_overhang within append.short append.msg first second
  have next := appendCircular_ranged before.2.1 within append.short append.msg before.2.2
  exact ⟨next.1, stays.trans same⟩

/-- A reset in the first pass is not made up for: until the next reset, the segment is never
self-consistent again. -/
theorem firstPass_lasts (ranged : Ranged r) (append : Append) (dropped : UInt32)
    (salvages : FirstPassSalvages data r append.header)
    {segment : Ring × (Nat → UInt8) × UInt32}
    (reach : (appending (appendCircular r data append.header append.msg dropped)).Reaches
      (fun segment append => ¬append.Salvages segment) segment) (newest : Header) :
    ¬SelfConsistent segment.2.1 segment.1 newest := by
  intro consistent
  have start := (appendCircular_ranged data ranged append.short append.msg dropped).1
  obtain ⟨within, same⟩ := appending_overhang start reach
  obtain ⟨overhang, some⟩ := firstPass_overhang ranged append.short append.msg dropped salvages
  have aligned := consistent.overhang_eq within
  rw [same, overhang] at aligned
  exact some.ne' aligned

end ModbusBridge.LogStore
