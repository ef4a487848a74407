import ModbusBridge.LogStore.Slots

/-!
# What the append functions do to the slots

`Queued` says that the rolling segment is a chain of slots and that its three bookkeeping fields
agree about it. `evict` takes slots off the front, the tail of the segment becomes a filler slot,
and `appendCircular` adds one record slot at the end. `BootHeld` and `appendBoot` are the linear
counterpart.
-/

namespace ModbusBridge.LogStore

open Memory BlockRing

/-- The rolling segment queues the given slots, oldest first. -/
structure Queued (data : Nat → UInt8) (r : Ring) (slots : List Slot) : Prop where
  base_eq : r.base = bootCap
  cap_eq : r.cap = rollCap
  start_lt : r.readStart < rollCap
  chain : Chain (slotLayout rollCap) (cells data r) r.readStart slots r.writePos
  used_eq : r.used = slotBytes slots
  used_le : r.used ≤ rollCap

namespace Queued

variable {data data' : Nat → UInt8} {r : Ring} {slots : List Slot}

theorem addressable (queued : Queued data r slots) : r.Addressable := by
  rw [Ring.Addressable, queued.base_eq, queued.cap_eq]
  decide

theorem writePos_lt (queued : Queued data r slots) : r.writePos < rollCap :=
  queued.chain.stop_lt queued.start_lt

/-- The rolling segment does not look at bytes of the boot segment, nor at its own free bytes. -/
theorem write_free (count : Nat) (queued : Queued data r slots)
    (room : slotBytes slots + count ≤ rollCap)
    (agree : ∀ i, i < rollCap → (i < r.writePos ∨ r.writePos + count ≤ i) →
      data' (bootCap + i) = data (bootCap + i)) :
    Queued data' r slots where
  base_eq := queued.base_eq
  cap_eq := queued.cap_eq
  start_lt := queued.start_lt
  chain := queued.chain.write_free count queued.start_lt room fun i inside free => by
    simpa [cells, queued.base_eq] using agree i inside free
  used_eq := queued.used_eq
  used_le := queued.used_le

/-- A slot that lies after the last one joins the queue. -/
theorem push (slot : Slot) (queued : Queued data r slots)
    (held : slot.Held rollCap (cells data r) r.writePos)
    (room : slotBytes slots + slot.size ≤ rollCap) :
    Queued data
      { r with writePos := (r.writePos + slot.size) % rollCap, used := r.used + slot.size }
      (slots ++ [slot]) where
  base_eq := queued.base_eq
  cap_eq := queued.cap_eq
  start_lt := queued.start_lt
  chain := queued.chain.snoc held
  used_eq := by simp [queued.used_eq]
  used_le := by rw [queued.used_eq]; exact room

/-- The oldest slot leaves the queue. -/
theorem pop {slot : Slot} (queued : Queued data r (slot :: slots)) :
    Queued data
      { r with readStart := (r.readStart + slot.size) % rollCap, used := r.used - slot.size }
      slots := by
  have used := queued.used_eq
  have bound := queued.used_le
  cases queued.chain with
  | cons held rest =>
      exact
        { base_eq := queued.base_eq
          cap_eq := queued.cap_eq
          start_lt := Nat.mod_lt _ (by decide)
          chain := rest
          used_eq := by simp only [slotBytes_cons] at used; simp only; omega
          used_le := by simp only; omega }

/-- An empty segment queues nothing. -/
theorem empty (data : Nat → UInt8) : Queued data (resetRing bootCap rollCap) [] where
  base_eq := rfl
  cap_eq := rfl
  start_lt := by decide
  chain := .nil 0
  used_eq := rfl
  used_le := by decide

end Queued

/-! ## Eviction -/

/-- What a turn of the eviction loop computes from the oldest slot. -/
theorem Queued.evict_turn {data : Nat → UInt8} {r : Ring} {slot : Slot} {slots : List Slot}
    (queued : Queued data r (slot :: slots)) :
    recordSizeAt data r r.readStart = slot.size ∧ 0 < slot.size ∧ slot.size ≤ r.used ∧
      u16 ((r.readStart + slot.size) % r.cap) = (r.readStart + slot.size) % rollCap ∧
      sub16 r.used slot.size = r.used - slot.size := by
  have used := queued.used_eq
  have bound := queued.used_le
  have capacity : rollCap = 2048 := rfl
  simp only [slotBytes_cons] at used
  cases queued.chain with
  | cons held rest =>
      have wrapped := Nat.mod_lt (r.readStart + slot.size) (by omega : 0 < rollCap)
      refine ⟨recordSizeAt_eq queued.addressable (queued.cap_eq.symm ▸ held),
        (slotLayout rollCap).size_pos held, by omega, ?_, sub16_of_le (by omega) (by omega)⟩
      rw [queued.cap_eq, u16_of_lt (by omega)]

/-- One turn of the eviction loop takes the oldest slot. -/
theorem evictLoop_cons {data : Nat → UInt8} {r : Ring} {slot : Slot} {slots : List Slot}
    {need fuel : Nat} {dropped : UInt32} (queued : Queued data r (slot :: slots))
    (full : rollCap < r.used + need) :
    evictLoop data need (fuel + 1) r dropped =
      evictLoop data need fuel
        { r with readStart := (r.readStart + slot.size) % rollCap, used := r.used - slot.size }
        (dropped + 1) := by
  obtain ⟨size, positive, inside, readStart, used⟩ := queued.evict_turn
  rw [evictLoop, if_pos ⟨by rw [queued.cap_eq]; exact full, by omega⟩]
  simp only [size, readStart, used]
  rw [if_neg (by omega)]

/-- The eviction loop stops where it stands once `need` fits. -/
theorem evictLoop_stop {data : Nat → UInt8} {r : Ring} {need : Nat} {dropped : UInt32}
    (fuel : Nat) (fits : r.used + need ≤ r.cap) :
    evictLoop data need fuel r dropped = (r, dropped) := by
  cases fuel with
  | zero => rfl
  | succ fuel => rw [evictLoop, if_neg (by omega)]

/-- The slots that leave until `need` fits, and those that stay. -/
def goneSlots (need : Nat) : List Slot → List Slot
  | [] => []
  | slot :: slots =>
      if rollCap < slotBytes (slot :: slots) + need then slot :: goneSlots need slots else []

def keptSlots (need : Nat) : List Slot → List Slot
  | [] => []
  | slot :: slots =>
      if rollCap < slotBytes (slot :: slots) + need then keptSlots need slots else slot :: slots

theorem goneSlots_append_keptSlots (need : Nat) (slots : List Slot) :
    goneSlots need slots ++ keptSlots need slots = slots := by
  induction slots with
  | nil => rfl
  | cons slot slots induction =>
      rw [goneSlots, keptSlots]
      split_ifs
      · rw [List.cons_append, induction]
      · rfl

theorem slotBytes_keptSlots {need : Nat} (fits : need ≤ rollCap) (slots : List Slot) :
    slotBytes (keptSlots need slots) + need ≤ rollCap := by
  induction slots with
  | nil => simpa [keptSlots] using fits
  | cons slot slots induction =>
      rw [keptSlots]
      split_ifs with full
      · exact induction
      · omega

/-- `evict` takes the slots off the front, counts them and leaves the writer's position. -/
structure EvictedSlots (data : Nat → UInt8) (need : Nat) (slots : List Slot) (before : Ring)
    (dropped : UInt32) (after : Ring × UInt32) : Prop where
  queued : Queued data after.1 (keptSlots need slots)
  dropped_eq : after.2 = dropped + UInt32.ofNat (goneSlots need slots).length
  writePos_eq : after.1.writePos = before.writePos

theorem evictLoop_slots {data : Nat → UInt8} {need : Nat} (fits : need ≤ rollCap)
    (slots : List Slot) {r : Ring} (queued : Queued data r slots) (fuel : Nat)
    (enough : r.used ≤ fuel) (dropped : UInt32) :
    EvictedSlots data need slots r dropped (evictLoop data need fuel r dropped) := by
  induction slots generalizing r fuel dropped with
  | nil =>
      have used : r.used = 0 := queued.used_eq
      rw [evictLoop_stop fuel (by rw [queued.cap_eq]; omega)]
      exact ⟨queued, (UInt32.add_zero dropped).symm, rfl⟩
  | cons slot slots induction =>
      have used := queued.used_eq
      by_cases full : rollCap < slotBytes (slot :: slots) + need
      · have positive := queued.evict_turn.2.1
        have size : slotBytes (slot :: slots) = slot.size + slotBytes slots := slotBytes_cons _ _
        obtain ⟨fuel, rfl⟩ := Nat.exists_eq_succ_of_ne_zero (show fuel ≠ 0 by omega)
        rw [evictLoop_cons queued (by omega)]
        obtain ⟨rest, counted, writePos⟩ :=
          induction queued.pop fuel (by simp only; omega) (dropped + 1)
        refine ⟨by rwa [keptSlots, if_pos full], ?_, writePos⟩
        rw [counted, goneSlots, if_pos full, List.length_cons, Nat.add_comm, UInt32.ofNat_add,
          UInt32.add_assoc]
        rfl
      · rw [evictLoop_stop fuel (by rw [queued.cap_eq]; omega)]
        refine ⟨by rwa [keptSlots, if_neg full], ?_, rfl⟩
        rw [goneSlots, if_neg full]
        exact (UInt32.add_zero dropped).symm

theorem evict_slots {data : Nat → UInt8} {r : Ring} {slots : List Slot} {need : Nat}
    (queued : Queued data r slots) (fits : need ≤ rollCap) (dropped : UInt32) :
    EvictedSlots data need slots r dropped (evict data r need dropped) :=
  evictLoop_slots fits slots queued r.used le_rfl dropped

/-- What `evict` leaves: the front of the queue is gone, `need` fits, and the writer's position
has not moved. -/
structure Evicted (data : Nat → UInt8) (need : Nat) (slots : List Slot) (before after : Ring) :
    Prop where
  evicted : ∃ gone kept, slots = gone ++ kept ∧ Queued data after kept
  room : after.used + need ≤ rollCap
  writePos_eq : after.writePos = before.writePos

/-- `evict` on a well-formed rolling segment. -/
theorem evict_evicted {data : Nat → UInt8} {r : Ring} {slots : List Slot} {need : Nat}
    (queued : Queued data r slots) (fits : need ≤ rollCap) (dropped : UInt32) :
    Evicted data need slots r (evict data r need dropped).1 := by
  obtain ⟨front, -, writePos⟩ := evict_slots queued fits dropped
  refine ⟨⟨_, _, (goneSlots_append_keptSlots need slots).symm, front⟩, ?_, writePos⟩
  rw [front.used_eq]
  exact slotBytes_keptSlots fits slots

/-! ## Appending -/

/-- The slots that `fillTail` adds: none, or the filler of the tail. -/
def tailFiller (r : Ring) (need : Nat) : List Slot :=
  if rollCap - r.writePos < need then [.filler (rollCap - r.writePos)] else []

@[simp] theorem records_tailFiller (r : Ring) (need : Nat) :
    Slot.records (tailFiller r need) = [] := by
  rw [tailFiller]
  split <;> rfl

/-- The header that `fillTail` writes over a tail with room for it. -/
def fillerHeader : Header := { len := 0, level := 0, flags := flagWrap, ts := 0 }

/-- A flagged header, or a tail too short for one, is a filler slot. -/
theorem held_filler {data : Nat → UInt8} {r : Ring} (base_eq : r.base = bootCap)
    (inside : r.writePos < rollCap)
    (flagged : hdr ≤ rollCap - r.writePos →
      Holds data (bootCap + r.writePos) (headerBytes fillerHeader)) :
    Slot.Held rollCap (cells data r) r.writePos (.filler (rollCap - r.writePos)) := by
  refine ⟨by omega, by omega, fun room => ?_⟩
  have flag := flagged room 3 (by decide)
  simp only [cells, base_eq]
  rw [← Nat.add_assoc, flag]
  decide

/-- The header that `fillTail` writes lies in free cells. -/
theorem Queued.flag {data data' : Nat → UInt8} {r : Ring} {slots : List Slot}
    (queued : Queued data r slots) (room : r.used + (rollCap - r.writePos) ≤ rollCap)
    (data_eq : data' = if rollCap - r.writePos ≥ hdr then
      writeHdr data (bootCap + r.writePos) fillerHeader else data) :
    Queued data' r slots := by
  refine queued.write_free (rollCap - r.writePos) (by rw [← queued.used_eq]; exact room)
    fun i bound free => ?_
  have inside := queued.writePos_lt
  rw [data_eq]
  split
  · rw [writeHdr, write_outside (.inl (by omega))]
  · rfl

/-- Closing the tail: the filler joins the queue and the writer restarts at 0. -/
theorem Queued.fill {data data' : Nat → UInt8} {r : Ring} {slots : List Slot}
    (queued : Queued data r slots) (room : r.used + (rollCap - r.writePos) ≤ rollCap)
    (data_eq : data' = if rollCap - r.writePos ≥ hdr then
      writeHdr data (bootCap + r.writePos) fillerHeader else data) :
    Queued data' { r with used := u16 (r.used + (rollCap - r.writePos)), writePos := 0 }
      (slots ++ [.filler (rollCap - r.writePos)]) := by
  have inside := queued.writePos_lt
  have capacity : rollCap = 2048 := rfl
  have tail : r.writePos + (rollCap - r.writePos) = rollCap := by omega
  have held : Slot.Held rollCap (cells data' r) r.writePos (.filler (rollCap - r.writePos)) := by
    refine held_filler queued.base_eq inside fun wide => ?_
    rw [data_eq, if_pos wide, writeHdr]
    exact holds_write _ _ _
  have pushed := (queued.flag room data_eq).push _ held (by rw [← queued.used_eq]; exact room)
  simpa only [Slot.size, tail, Nat.mod_self, u16_of_lt (show r.used + (rollCap - r.writePos) < 65536
    by omega)] using pushed

/-- The writer's address is no more than 16 bits wide. -/
theorem Queued.address {data : Nat → UInt8} {r : Ring} {slots : List Slot}
    (queued : Queued data r slots) : u16 (r.base + r.writePos) = bootCap + r.writePos := by
  have inside := queued.writePos_lt
  have capacity : bootCap + rollCap = 7168 := rfl
  rw [queued.base_eq, u16_of_lt (by omega)]

/-- The slots that `fillTail` evicts, and those that it leaves, with the filler. -/
def tailGone (writePos need : Nat) (slots : List Slot) : List Slot :=
  if rollCap - writePos < need then goneSlots (rollCap - writePos) slots else []

def tailKept (writePos need : Nat) (slots : List Slot) : List Slot :=
  if rollCap - writePos < need then
    keptSlots (rollCap - writePos) slots ++ [.filler (rollCap - writePos)]
  else slots

theorem tailGone_append_tailKept (r : Ring) (need : Nat) (slots : List Slot) :
    slots ++ tailFiller r need =
      tailGone r.writePos need slots ++ tailKept r.writePos need slots := by
  rw [tailFiller, tailGone, tailKept]
  split_ifs
  · rw [← List.append_assoc, goneSlots_append_keptSlots]
  · simp

/-- `fillTail` by its parts, when the tail cannot hold the record. -/
theorem fillTail_eq {r after : Ring} {data : Nat → UInt8} {dropped count : UInt32} {need : Nat}
    (tight : sub16 r.cap r.writePos < need)
    (evicted : evict data r (sub16 r.cap r.writePos) dropped = (after, count)) :
    fillTail r data dropped need =
      ({ after with used := u16 (after.used + sub16 r.cap r.writePos), writePos := 0 },
        if sub16 r.cap r.writePos ≥ hdr then
          writeHdr data (u16 (after.base + after.writePos))
            { len := 0, level := 0, flags := flagWrap, ts := 0 }
        else data, count) := by
  rw [fillTail]
  simp only [tight, if_true, evicted]

theorem fillTail_of_not {r : Ring} {need : Nat} (wide : ¬ sub16 r.cap r.writePos < need)
    (data : Nat → UInt8) (dropped : UInt32) : fillTail r data dropped need = (r, data, dropped) :=
  if_neg wide

/-- `fillTail` closes the tail behind the slots that it keeps, counts those that it does not, and
leaves the bytes of the boot segment. -/
structure FilledSlots (data : Nat → UInt8) (need : Nat) (slots : List Slot) (before : Ring)
    (dropped : UInt32) (after : Ring × (Nat → UInt8) × UInt32) : Prop where
  queued : Queued after.2.1 after.1 (tailKept before.writePos need slots)
  dropped_eq : after.2.2 = dropped + UInt32.ofNat (tailGone before.writePos need slots).length
  boot_eq : ∀ i, i < bootCap → after.2.1 i = data i
  writePos_eq : after.1.writePos =
    if rollCap - before.writePos < need then 0 else before.writePos

theorem fillTail_slots {data : Nat → UInt8} {r : Ring} {slots : List Slot} {need : Nat}
    (queued : Queued data r slots) (dropped : UInt32) :
    FilledSlots data need slots r dropped (fillTail r data dropped need) := by
  have inside := queued.writePos_lt
  have capacity : rollCap = 2048 := rfl
  have boot : bootCap = 5120 := rfl
  have gap : sub16 r.cap r.writePos = rollCap - r.writePos := by
    rw [queued.cap_eq, sub16_of_le (by omega) (by omega)]
  by_cases tight : rollCap - r.writePos < need
  · have narrow : rollCap - r.writePos ≤ rollCap := Nat.sub_le _ _
    have evicted := evict_slots queued narrow dropped
    rcases made : evict data r (rollCap - r.writePos) dropped with ⟨after, count⟩
    rw [made] at evicted
    obtain ⟨front, counted, writePos⟩ := evicted
    have room := slotBytes_keptSlots narrow slots
    rw [fillTail_eq (gap.symm ▸ tight) (gap.symm ▸ made), gap]
    dsimp only at front counted writePos
    rw [← front.used_eq, ← writePos] at room
    refine ⟨?_, ?_, fun i bound => ?_, (if_pos tight).symm⟩
    · have filled := front.fill room rfl
      rw [writePos] at filled
      rw [tailKept, if_pos tight, front.address, writePos]
      exact filled
    · rw [tailGone, if_pos tight, counted]
    · dsimp only
      split_ifs
      · rw [writeHdr, front.base_eq, u16_of_lt (by omega), write_outside (.inl (by omega))]
      · rfl
  · rw [fillTail_of_not (gap.symm ▸ tight)]
    refine ⟨by rwa [tailKept, if_neg tight], ?_, fun _ _ => rfl, (if_neg tight).symm⟩
    rw [tailGone, if_neg tight]
    exact (UInt32.add_zero dropped).symm

/-- What `fillTail` leaves: the filler is the newest slot, the front of the queue is gone, the bytes
of the boot segment stay, and the record fits before the end of the segment. -/
structure Refilled (data data' : Nat → UInt8) (need : Nat) (slots : List Slot)
    (before after : Ring) : Prop where
  refilled : ∃ gone kept, slots ++ tailFiller before need = gone ++ kept ∧ Queued data' after kept
  boot_eq : ∀ i, i < bootCap → data' i = data i
  tail : after.writePos + need ≤ rollCap
  writePos_eq : after.writePos = (before.writePos + slotBytes (tailFiller before need)) % rollCap

theorem fillTail_refilled {data : Nat → UInt8} {r : Ring} {slots : List Slot} {need : Nat}
    (queued : Queued data r slots) (fits : need ≤ rollCap) (dropped : UInt32) :
    let (after, data', _) := fillTail r data dropped need
    Refilled data data' need slots r after := by
  have inside := queued.writePos_lt
  have fills : FilledSlots data need slots r dropped (fillTail r data dropped need) :=
    fillTail_slots queued dropped
  generalize fillTail r data dropped need = result at fills ⊢
  obtain ⟨after, data', count⟩ := result
  obtain ⟨front, -, boot, writePos⟩ := fills
  dsimp only at writePos ⊢
  refine ⟨⟨_, _, tailGone_append_tailKept r need slots, front⟩, boot, ?_, ?_⟩
  · rw [writePos]
    split_ifs <;> omega
  · rw [writePos, tailFiller]
    split_ifs
    · simp [Slot.size, show r.writePos + (rollCap - r.writePos) = rollCap by omega]
    · rw [slotBytes_nil, Nat.add_zero, Nat.mod_eq_of_lt inside]

/-- `appendCircular` by its parts. -/
theorem appendCircular_eq {r middle after : Ring} {data data' : Nat → UInt8} {header : Header}
    {need : Nat} {dropped count last : UInt32} (msg : Bytes)
    (size : u16 (hdr + roundUp4 header.len) = need)
    (filled : fillTail r data dropped need = (middle, data', count))
    (evicted : evict data' middle need count = (after, last)) :
    appendCircular r data header msg dropped =
      ({ after with
          writePos := u16 ((after.writePos + need) % after.cap), used := u16 (after.used + need) },
        writeRecord data' (u16 (after.base + after.writePos)) header msg need, last) := by
  rw [appendCircular, size, filled]
  simp only [evicted]

/-- A record is written into free cells. -/
theorem Queued.spell {data : Nat → UInt8} {r : Ring} {slots : List Slot}
    (queued : Queued data r slots) (record : Record) (room : r.used + record.size ≤ rollCap) :
    Queued (Memory.write data (bootCap + r.writePos) record.encode) r slots := by
  refine queued.write_free record.size (by rw [← queued.used_eq]; exact room)
    fun i bound outside => ?_
  rw [write_outside (by rw [Record.encode_length]; omega)]

/-- Writing a record at the end of a queue that has room for it. -/
theorem Queued.write {data : Nat → UInt8} {r : Ring} {slots : List Slot} {record : Record}
    (queued : Queued data r slots)
    (tail : r.writePos + record.size ≤ rollCap) (room : r.used + record.size ≤ rollCap) :
    Queued (Memory.write data (bootCap + r.writePos) record.encode)
      { r with
        writePos := u16 ((r.writePos + record.size) % r.cap), used := u16 (r.used + record.size) }
      (slots ++ [.record record]) := by
  have capacity : rollCap = 2048 := rfl
  have wrapped := Nat.mod_lt (r.writePos + record.size) (show 0 < rollCap by decide)
  have position :
      u16 ((r.writePos + record.size) % r.cap) = (r.writePos + record.size) % rollCap := by
    rw [queued.cap_eq, u16_of_lt (by omega)]
  rw [position, u16_of_lt (n := r.used + record.size) (by omega)]
  refine (queued.spell record room).push (.record record) ⟨tail, ?_⟩
    (by rw [← queued.used_eq]; exact room)
  rw [holds_cells, queued.base_eq]
  exact holds_write _ _ _

/-- The slots that `appendCircular` evicts for a record of that size, and those that it keeps. -/
def appendGone (writePos size : Nat) (slots : List Slot) : List Slot :=
  tailGone writePos size slots ++ goneSlots size (tailKept writePos size slots)

def appendKept (writePos size : Nat) (slots : List Slot) : List Slot :=
  keptSlots size (tailKept writePos size slots)

theorem appendGone_append_appendKept (r : Ring) (size : Nat) (slots : List Slot) :
    slots ++ tailFiller r size =
      appendGone r.writePos size slots ++ appendKept r.writePos size slots := by
  rw [appendGone, appendKept, List.append_assoc, goneSlots_append_keptSlots,
    tailGone_append_tailKept]

/-- `appendCircular` puts the record behind the slots that it keeps, counts those that it does not,
and leaves the bytes of the boot segment. -/
structure AppendedSlots (data : Nat → UInt8) (slots : List Slot) (record : Record) (before : Ring)
    (dropped : UInt32) (after : Ring × (Nat → UInt8) × UInt32) : Prop where
  queued : Queued after.2.1 after.1
    (appendKept before.writePos record.size slots ++ [.record record])
  dropped_eq : after.2.2 =
    dropped + UInt32.ofNat (appendGone before.writePos record.size slots).length
  boot_eq : ∀ i, i < bootCap → after.2.1 i = data i
  writePos_eq : after.1.writePos =
    (before.writePos + (slotBytes (tailFiller before record.size) + record.size)) % rollCap

theorem appendCircular_slots {data : Nat → UInt8} {r : Ring} {slots : List Slot}
    {record : Record} {msg : Bytes} (queued : Queued data r slots)
    (body : msg.take record.body.length = record.body) (dropped : UInt32) :
    AppendedSlots data slots record r dropped
      (appendCircular r data record.header msg dropped) := by
  have capacity : rollCap = 2048 := rfl
  have boot : bootCap = 5120 := rfl
  have bounds := record.size_bounds
  have fits : record.size ≤ rollCap := by omega
  have filled := fillTail_refilled queued fits dropped
  have fills : FilledSlots data record.size slots r dropped (fillTail r data dropped record.size) :=
    fillTail_slots queued dropped
  rcases closed : fillTail r data dropped record.size with ⟨middle, data₁, dropped₁⟩
  rw [closed] at filled fills
  obtain ⟨-, boot₁, tail, closedAt⟩ := filled
  obtain ⟨front₁, counted₁, -, -⟩ := fills
  have evicted := evict_slots front₁ fits dropped₁
  rcases made : evict data₁ middle record.size dropped₁ with ⟨after, last⟩
  rw [made] at evicted
  obtain ⟨front₂, counted₂, writePos⟩ := evicted
  rw [appendCircular_eq msg record.need_eq closed made]
  rw [← writePos] at tail
  dsimp only at front₂ writePos counted₁ counted₂ tail
  have room := slotBytes_keptSlots fits (tailKept r.writePos record.size slots)
  rw [← front₂.used_eq] at room
  refine ⟨?_, ?_, fun i bound => ?_, ?_⟩
  · dsimp only
    rw [front₂.address, writeRecord_eq _ _ _ _ body]
    exact front₂.write tail room
  · rw [counted₂, counted₁, appendGone, List.length_append, UInt32.ofNat_add, UInt32.add_assoc]
  · dsimp only
    rw [front₂.address, writeRecord_eq _ _ _ _ body, write_outside (.inl (by omega))]
    exact boot₁ i bound
  · have wrapped := Nat.mod_lt (after.writePos + record.size) (show 0 < rollCap by decide)
    simp only [front₂.cap_eq]
    rw [u16_of_lt (by omega), writePos, closedAt, Nat.mod_add_mod, Nat.add_assoc]

/-- What `appendCircular` leaves: the record is the newest slot, after the filler where the tail was
too short, only the oldest slots are gone, and the bytes of the boot segment stay. -/
structure Appended (data data' : Nat → UInt8) (slots : List Slot) (record : Record)
    (before after : Ring) : Prop where
  appended : ∃ gone kept, slots ++ tailFiller before record.size = gone ++ kept ∧
    Queued data' after (kept ++ [.record record])
  boot_eq : ∀ i, i < bootCap → data' i = data i
  writePos_eq : after.writePos =
    (before.writePos + (slotBytes (tailFiller before record.size) + record.size)) % rollCap

theorem appendCircular_appended {data : Nat → UInt8} {r : Ring} {slots : List Slot}
    {record : Record} {msg : Bytes} (queued : Queued data r slots)
    (body : msg.take record.body.length = record.body) (dropped : UInt32) :
    let (after, data', _) := appendCircular r data record.header msg dropped
    Appended data data' slots record r after := by
  have appends := appendCircular_slots queued body dropped
  generalize appendCircular r data record.header msg dropped = result at appends ⊢
  obtain ⟨after, data', count⟩ := result
  exact ⟨⟨_, _, appendGone_append_appendKept r record.size slots, appends.queued⟩,
    appends.boot_eq, appends.writePos_eq⟩

/-! ## The boot segment -/

/-- The boot segment holds the given records, first to last, from its base on. -/
structure BootHeld (data : Nat → UInt8) (r : Ring) (records : List Record) : Prop where
  base_eq : r.base = 0
  cap_eq : r.cap = bootCap
  readStart_eq : r.readStart = 0
  used_eq : r.used = r.writePos
  chain : Chain (slotLayout bootCap) (cells data r) 0 (records.map .record)
    (r.writePos % bootCap)
  writePos_eq : r.writePos = slotBytes (records.map .record)
  writePos_le : r.writePos ≤ bootCap

namespace BootHeld

variable {data data' : Nat → UInt8} {r : Ring} {records : List Record}

theorem addressable (held : BootHeld data r records) : r.Addressable := by
  rw [Ring.Addressable, held.base_eq, held.cap_eq]
  decide

/-- The boot segment does not look at bytes of the rolling segment. -/
theorem congr (held : BootHeld data r records)
    (agree : ∀ i, i < bootCap → data' i = data i) : BootHeld data' r records where
  base_eq := held.base_eq
  cap_eq := held.cap_eq
  readStart_eq := held.readStart_eq
  used_eq := held.used_eq
  chain := held.chain.congr (by decide) fun k _ => by
    simpa [cells, held.base_eq] using agree _ (Nat.mod_lt _ (by decide))
  writePos_eq := held.writePos_eq
  writePos_le := held.writePos_le

/-- A reset boot segment holds nothing. -/
theorem empty (data : Nat → UInt8) : BootHeld data (resetRing 0 bootCap) [] where
  base_eq := rfl
  cap_eq := rfl
  readStart_eq := rfl
  used_eq := rfl
  chain := .nil 0
  writePos_eq := rfl
  writePos_le := by decide

end BootHeld

/-- A full boot segment takes nothing. -/
theorem appendBoot_full {data : Nat → UInt8} {r : Ring} {records : List Record} {record : Record}
    {msg : Bytes} (held : BootHeld data r records)
    (full : bootCap < slotBytes (records.map .record) + record.size) :
    appendBoot r data record.header msg = none := by
  rw [appendBoot, record.need_eq, held.cap_eq, if_pos (by rw [held.writePos_eq]; omega)]

/-- Writing a record behind those that the boot segment holds. -/
theorem BootHeld.chain_write {data : Nat → UInt8} {r : Ring} {records : List Record}
    (held : BootHeld data r records) (record : Record)
    (room : r.writePos + record.size ≤ bootCap) :
    Chain (slotLayout bootCap) (cells (Memory.write data r.writePos record.encode) r) 0
      ((records ++ [record]).map .record) ((r.writePos + record.size) % bootCap) := by
  have bounds := record.size_bounds
  have smallHdr : hdr = 8 := rfl
  have inside : r.writePos % bootCap = r.writePos := Nat.mod_eq_of_lt (by omega)
  have agree (i : Nat) (_ : i < bootCap)
      (outside : i < r.writePos % bootCap ∨ r.writePos % bootCap + record.size ≤ i) :
      cells (Memory.write data r.writePos record.encode) r i = cells data r i := by
    simp only [cells, held.base_eq]
    exact write_outside (by rw [Record.encode_length]; omega)
  have kept := held.chain.write_free record.size (by decide)
    (by simpa [held.writePos_eq] using room) agree
  have last : (slotLayout bootCap).Held (cells (Memory.write data r.writePos record.encode) r)
      (r.writePos % bootCap) (.record record) := by
    refine ⟨by rw [inside]; exact room, ?_⟩
    rw [holds_cells, held.base_eq, inside, Nat.zero_add]
    exact holds_write _ _ _
  have longer := kept.snoc last
  rw [inside] at longer
  simpa [Slot.size] using longer

/-- A boot segment with room takes the record, and leaves the rolling segment alone. -/
theorem appendBoot_room {data : Nat → UInt8} {r : Ring} {records : List Record} {record : Record}
    {msg : Bytes} (held : BootHeld data r records)
    (body : msg.take record.body.length = record.body)
    (room : slotBytes (records.map .record) + record.size ≤ bootCap) :
    ∃ after data', appendBoot r data record.header msg = some (after, data') ∧
      BootHeld data' after (records ++ [record]) ∧
      ∀ i, bootCap ≤ i → data' i = data i := by
  have boot : bootCap = 5120 := rfl
  have bounds := record.size_bounds
  have smallHdr : hdr = 8 := rfl
  rw [← held.writePos_eq] at room
  have address : u16 (r.base + r.writePos) = r.writePos := by
    rw [held.base_eq, Nat.zero_add, u16_of_lt (by omega)]
  refine ⟨_, _, by rw [appendBoot, record.need_eq, held.cap_eq, if_neg (by omega)], ?_, ?_⟩
  · rw [address, writeRecord_eq data _ record msg body, u16_of_lt (by omega)]
    exact
      { base_eq := held.base_eq
        cap_eq := rfl
        readStart_eq := held.readStart_eq
        used_eq := rfl
        chain := held.chain_write record room
        writePos_eq := by simp [held.writePos_eq, Slot.size]
        writePos_le := room }
  · intro i beyond
    rw [address, writeRecord_eq data _ record msg body]
    exact write_outside (.inr (by rw [Record.encode_length]; omega))

end ModbusBridge.LogStore
