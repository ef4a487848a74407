import ModbusBridge.Library.StepSystem
import ModbusBridge.LogStore.Ranges

/-!
# Accesses to the data area

`begin` accepts a region without looking at the bytes of the rolling segment. The addresses that the
log store reads are listed here, turn by turn; the bytes that it writes are those of `sinkWrites`.
Every access lies in the data area but one: `next` trusts a length of at most 160 bytes in a header
that stands close to the end of the rolling segment.
-/

namespace ModbusBridge.LogStore

open Memory BlockRing ESPLogger

/-! ## What is read -/

/-- The bytes that `recordSizeAt` reads. -/
def recordSizeReads (r : Ring) (pos : Nat) : List Nat :=
  if pos + hdr > r.cap then [] else List.range' (u16 (r.base + pos)) hdr

/-- The bytes that the loop of `evict` reads. -/
def evictReads (data : Nat → UInt8) (need : Nat) : Nat → Ring → List Nat
  | 0, _ => []
  | fuel + 1, r =>
      if r.used + need > r.cap ∧ r.used > 0 then
        let sz := recordSizeAt data r r.readStart
        recordSizeReads r r.readStart ++
          if sz = 0 ∨ sz > r.used then []
          else
            evictReads data need fuel
              { r with readStart := u16 ((r.readStart + sz) % r.cap), used := sub16 r.used sz }
      else []

/-- The bytes that `appendCircular` reads, in its two evictions. -/
def circularReads (r : Ring) (data : Nat → UInt8) (header : Header) (dropped : UInt32) : List Nat :=
  let need := u16 (hdr + roundUp4 header.len)
  let tailGap := sub16 r.cap r.writePos
  let filled := fillTail r data dropped need
  (if tailGap < need then evictReads data tailGap r.used r else []) ++
    evictReads filled.2.1 need filled.1.used filled.1

/-- The bytes that `sink` reads. `appendBoot` reads none. -/
def sinkReads (store : Store) (level : LogLevel) (message : CString) (timestamp : UInt32) :
    List Nat :=
  let header := lineHeader level message timestamp
  let rtc := store.rtc
  if store.capture.shouldCapture level timestamp then
    if timestamp < logBootWindowMs ∧
        (appendBoot rtc.region.boot rtc.data header message.bytes).isSome then []
    else circularReads rtc.region.roll rtc.data header rtc.region.dropped
  else []

/-- The bytes that one turn of the loop of `next` reads: a header, and the body that is copied. -/
def turnReads (region : Region) (data : Nat → UInt8) (cursor : Cursor) : List Nat :=
  let r := if cursor.segment = .boot then region.boot else region.roll
  let pos := cursor.pos
  if cursor.remaining = 0 ∨ r.used < cursor.remaining ∨ pos + hdr > r.cap then []
  else
    let header := readHdr data (u16 (r.base + pos))
    List.range' (u16 (r.base + pos)) hdr ++
      if header.flags &&& flagWrap ≠ 0 ∨ header.len > logStoreMaxMsg then []
      else List.range' (r.base + pos + hdr) header.len

/-- The bytes that the loop of `next` reads. -/
def fetchReads (region : Region) (data : Nat → UInt8) : Nat → Cursor → List Nat
  | 0, _ => []
  | fuel + 1, cursor =>
      if cursor.segment = .done then []
      else
        turnReads region data cursor ++
          match fetchStep region data cursor with
          | (_, some _) => []
          | (cursor, none) => fetchReads region data fuel cursor

/-- The bytes that `next` reads. -/
def nextReads (store : Store) (cursor : Cursor) (outSize : Nat) : List Nat :=
  if outSize < 2 then []
  else
    fetchReads store.rtc.region store.rtc.data
      (cursor.remaining + store.rtc.region.roll.used + 3) cursor

/-! ### Nothing else is read -/

theorem readHdr_congr {data data' : Nat → UInt8} {off : Nat}
    (agree : ∀ addr ∈ List.range' off hdr, data' addr = data addr) :
    readHdr data' off = readHdr data off := by
  have cell (i : Nat) (inside : i < 8) : data' (off + i) = data (off + i) :=
    agree _ (List.mem_range'_1.mpr ⟨by omega, by simp only [hdr]; omega⟩)
  have first : data' off = data off := cell 0 (by decide)
  simp only [readHdr, first, cell, Nat.reduceLT]

theorem slice_congr {data data' : Nat → UInt8} {start count : Nat}
    (agree : ∀ addr ∈ List.range' start count, data' addr = data addr) :
    slice data' start count = slice data start count :=
  List.map_congr_left fun i member =>
    agree _ (List.mem_range'_1.mpr ⟨by omega, by have := List.mem_range.mp member; omega⟩)

theorem recordSizeAt_congr {data data' : Nat → UInt8} {r : Ring} {pos : Nat}
    (agree : ∀ addr ∈ recordSizeReads r pos, data' addr = data addr) :
    recordSizeAt data' r pos = recordSizeAt data r pos := by
  rw [recordSizeReads] at agree
  unfold recordSizeAt
  split_ifs at agree with tail
  · rw [if_pos tail, if_pos tail]
  · rw [if_neg tail, if_neg tail, readHdr_congr agree]

/-- The loop of `evict` depends on the bytes that it reads only. -/
theorem evictLoop_congr {data data' : Nat → UInt8} {need fuel : Nat} {r : Ring} {dropped : UInt32}
    (agree : ∀ addr ∈ evictReads data need fuel r, data' addr = data addr) :
    evictLoop data' need fuel r dropped = evictLoop data need fuel r dropped := by
  induction fuel generalizing r dropped with
  | zero => rfl
  | succ fuel induction =>
      rw [evictReads] at agree
      rw [evictLoop, evictLoop]
      split_ifs at agree ⊢ with guard
      · have size : recordSizeAt data' r r.readStart = recordSizeAt data r r.readStart :=
          recordSizeAt_congr fun addr member => agree addr (List.mem_append_left _ member)
        dsimp only at agree ⊢
        rw [size]
        split_ifs at agree ⊢ with torn
        · rfl
        · exact induction fun addr member => agree addr (List.mem_append_right _ member)
      · rfl

/-- A turn of the loop of `next` depends on the bytes that it reads only. -/
theorem fetchStep_congr {region : Region} {data data' : Nat → UInt8} {cursor : Cursor}
    (agree : ∀ addr ∈ turnReads region data cursor, data' addr = data addr) :
    fetchStep region data' cursor = fetchStep region data cursor := by
  rw [turnReads] at agree
  unfold fetchStep
  dsimp only at agree ⊢
  generalize (if cursor.segment = .boot then region.boot else region.roll) = r at agree ⊢
  by_cases left : cursor.remaining = 0
  · rw [if_pos left, if_pos left]
  by_cases lapped : r.used < cursor.remaining
  · rw [if_neg left, if_pos lapped, if_neg left, if_pos lapped]
  by_cases tail : cursor.pos + hdr > r.cap
  · rw [if_neg left, if_neg lapped, if_pos tail, if_neg left, if_neg lapped, if_pos tail]
  rw [if_neg (by simp only [left, lapped, tail, or_self, not_false_eq_true])] at agree
  rw [readHdr_congr fun addr member => agree addr (List.mem_append_left _ member)]
  by_cases wrapped : (readHdr data (u16 (r.base + cursor.pos))).flags &&& flagWrap ≠ 0
  · simp only [if_pos wrapped]
  by_cases corrupt : (readHdr data (u16 (r.base + cursor.pos))).len > logStoreMaxMsg
  · simp only [if_neg wrapped, if_pos corrupt]
  rw [if_neg (not_or.mpr ⟨wrapped, corrupt⟩)] at agree
  rw [slice_congr fun addr member => agree addr (List.mem_append_right _ member)]

/-- The loop of `next` depends on the bytes that it reads only. -/
theorem fetchLoop_congr {region : Region} {data data' : Nat → UInt8} {fuel : Nat} {cursor : Cursor}
    (agree : ∀ addr ∈ fetchReads region data fuel cursor, data' addr = data addr) :
    fetchLoop region data' fuel cursor = fetchLoop region data fuel cursor := by
  induction fuel generalizing cursor with
  | zero => rfl
  | succ fuel induction =>
      rw [fetchReads] at agree
      rw [fetchLoop, fetchLoop]
      split_ifs at agree ⊢ with done
      · rfl
      · rw [fetchStep_congr fun addr member => agree addr (List.mem_append_left _ member)]
        rcases step : fetchStep region data cursor with ⟨after, fetched⟩
        rw [step] at agree
        cases fetched with
        | some fetched => rfl
        | none => exact induction fun addr member => agree addr (List.mem_append_right _ member)

/-! ## Appending stays in the area -/

/-- A store within the data area, or one that leaves no more in use than there is. -/
def Write.Sound : Write → Prop
  | .byte addr _ => addr < logStoreDataBytes
  | .boot .used value => value ≤ bootCap
  | .roll _ .used value => value ≤ rollCap
  | _ => True

theorem Ranged.recordSizeReads_lt {r : Ring} (ranged : Ranged r) {pos addr : Nat}
    (member : addr ∈ recordSizeReads r pos) : addr < logStoreDataBytes := by
  have capacity : bootCap + rollCap = logStoreDataBytes := rfl
  have area : logStoreDataBytes = 7168 := rfl
  rw [recordSizeReads] at member
  rw [ranged.base_eq, ranged.cap_eq] at member
  split_ifs at member with tail
  · contradiction
  · rw [u16_of_lt (by omega)] at member
    have inside := (List.mem_range'_1.mp member).2
    omega

theorem Ranged.evictReads_lt (data : Nat → UInt8) (need fuel : Nat) {r : Ring} (ranged : Ranged r)
    {addr : Nat} (member : addr ∈ evictReads data need fuel r) : addr < logStoreDataBytes := by
  induction fuel generalizing r with
  | zero => contradiction
  | succ fuel induction =>
      rw [evictReads] at member
      split_ifs at member with guard
      · rcases List.mem_append.mp member with here | later
        · exact ranged.recordSizeReads_lt here
        · split_ifs at later with torn
          · contradiction
          · obtain ⟨next, -⟩ := ranged.evict_turn
              (Nat.pos_of_ne_zero fun zero => torn (.inl zero))
              (Nat.le_of_not_lt fun beyond => torn (.inr beyond))
            exact induction next later
      · contradiction

theorem Ranged.evictWrites_sound (data : Nat → UInt8) (need fuel : Nat) {r : Ring}
    (ranged : Ranged r) (dropped : UInt32) :
    ∀ write ∈ evictWrites data need fuel r dropped, write.Sound := by
  induction fuel generalizing r dropped with
  | zero => simp [evictWrites]
  | succ fuel induction =>
      rw [evictWrites]
      split_ifs with guard
      · dsimp only
        split_ifs with torn
        · simp [Write.Sound]
        · obtain ⟨next, -⟩ := ranged.evict_turn (Nat.pos_of_ne_zero fun zero => torn (.inl zero))
            (Nat.le_of_not_lt fun beyond => torn (.inr beyond))
          rw [List.forall_mem_append]
          exact ⟨by simpa [Write.Sound] using next.used_le, induction next (dropped + 1)⟩
      · simp

theorem byteWrites_sound {off : Nat} {bytes : Bytes}
    (inside : off + bytes.length ≤ logStoreDataBytes) :
    ∀ write ∈ byteWrites off bytes, write.Sound := by
  intro write member
  obtain ⟨addr, value, rfl, before⟩ := mem_byteWrites member
  exact before.trans_le inside

theorem recordWrites_sound {off need : Nat} {header : Header} (msg : Bytes)
    (fits : hdr + header.len ≤ need) (inside : off + need ≤ logStoreDataBytes) :
    ∀ write ∈ recordWrites off header msg need, write.Sound := by
  have body : (msg.take header.len).length ≤ header.len := List.length_take_le _ _
  have headerLength : (headerBytes header).length = hdr := rfl
  rw [recordWrites, List.forall_mem_append, List.forall_mem_append]
  refine ⟨⟨byteWrites_sound (by omega), byteWrites_sound (by omega)⟩, byteWrites_sound ?_⟩
  rw [List.length_replicate]
  omega

section

variable {r : Ring} {data : Nat → UInt8} {header : Header}

theorem Ranged.tailWrites_sound (ranged : Ranged r) (data : Nat → UInt8) (dropped : UInt32)
    (need : Nat) : ∀ write ∈ tailWrites r data dropped need, write.Sound := by
  have capacity : bootCap + rollCap = logStoreDataBytes := rfl
  have inside := ranged.writePos_lt
  have made := evict_ranged data (show rollCap - r.writePos ≤ rollCap by omega) ranged dropped
  rw [tailWrites, ranged.tailGap]
  dsimp only
  by_cases tight : rollCap - r.writePos < need
  · have room := made.close.used_le
    rw [if_pos tight, List.forall_mem_append, List.forall_mem_append]
    refine ⟨⟨ranged.evictWrites_sound _ _ _ _, ?_⟩, by simpa [Write.Sound] using room⟩
    split_ifs with wide
    · have ends : r.writePos + (rollCap - r.writePos) ≤ rollCap := by omega
      have tail := made.tail (by omega) ends
      have headerLength : (headerBytes fillerHeader).length = hdr := rfl
      rw [made.ranged.address]
      exact byteWrites_sound (show _ + (headerBytes fillerHeader).length ≤ _ by omega)
    · simp
  · rw [if_neg tight]
    simp

theorem Ranged.circularReads_lt (ranged : Ranged r) (short : header.len ≤ logStoreMaxMsg)
    (dropped : UInt32) {addr : Nat} (member : addr ∈ circularReads r data header dropped) :
    addr < logStoreDataBytes := by
  have capacity : rollCap = 2048 := rfl
  have need := need_bounds short
  have filled := fillTail_ranged data ranged dropped
    (show u16 (hdr + roundUp4 header.len) ≤ rollCap by omega)
  rcases List.mem_append.mp member with first | second
  · split_ifs at first
    · exact ranged.evictReads_lt _ _ _ first
    · contradiction
  · exact filled.ranged.evictReads_lt _ _ _ second

theorem Ranged.circularWrites_sound (ranged : Ranged r) (short : header.len ≤ logStoreMaxMsg)
    (msg : Bytes) (dropped : UInt32) :
    ∀ write ∈ circularWrites r data header msg dropped, write.Sound := by
  have capacity : bootCap + rollCap = logStoreDataBytes := rfl
  have small : rollCap = 2048 := rfl
  have need := need_bounds short
  have fits : u16 (hdr + roundUp4 header.len) ≤ rollCap := by omega
  have filled := fillTail_ranged data ranged dropped fits
  have made := evict_ranged (fillTail r data dropped (u16 (hdr + roundUp4 header.len))).2.1 fits
    filled.ranged (fillTail r data dropped (u16 (hdr + roundUp4 header.len))).2.2
  rw [circularWrites]
  rw [List.forall_mem_append, List.forall_mem_append, List.forall_mem_append]
  refine ⟨⟨⟨ranged.tailWrites_sound data dropped _, filled.ranged.evictWrites_sound _ _ _ _⟩,
    recordWrites_sound msg need.1 ?_⟩, ?_⟩
  · have tail := made.tail fits filled.tail
    rw [made.ranged.address]
    omega
  · have room := (made.ranged.push made.room).used_le
    simpa [Write.Sound] using room

theorem bootWrites_sound {boot : List Record} (held : BootHeld data r boot)
    (short : header.len ≤ logStoreMaxMsg) (msg : Bytes)
    (room : r.writePos + u16 (hdr + roundUp4 header.len) ≤ r.cap) :
    ∀ write ∈ bootWrites r header msg, write.Sound := by
  have area : bootCap ≤ logStoreDataBytes := by decide
  have small : bootCap = 5120 := rfl
  rw [held.cap_eq] at room
  rw [bootWrites, List.forall_mem_append, held.base_eq, Nat.zero_add]
  refine ⟨recordWrites_sound msg (need_bounds short).1 ?_, ?_⟩
  · rw [u16_of_lt (by omega)]
    exact room.trans area
  · simpa [Write.Sound] using (u16_of_lt (show r.writePos + _ < 65536 by omega)).le.trans room

end

namespace Intact

variable {store : Store} {boot : List Record} {level : LogLevel} {text : CString} {ts : UInt32}

theorem sinkReads_lt (intact : Intact store.rtc boot) {addr : Nat}
    (member : addr ∈ sinkReads store level text ts) : addr < logStoreDataBytes := by
  have short := (lineHeader_len level text ts).1
  unfold sinkReads at member
  dsimp only at member
  split_ifs at member
  · contradiction
  · exact intact.ranged.circularReads_lt short _ member
  · contradiction

theorem sinkWrites_sound (intact : Intact store.rtc boot) :
    ∀ write ∈ sinkWrites store level text ts, write.Sound := by
  have short := (lineHeader_len level text ts).1
  rw [sinkWrites, routeWrites]
  split_ifs with captured early
  · rw [List.forall_mem_append]
    refine ⟨bootWrites_sound intact.held short _ ?_, by simp [Write.Sound]⟩
    by_contra full
    simp [appendBoot, full] at early
  · rw [List.forall_mem_append]
    exact ⟨intact.ranged.circularWrites_sound short _ _, by simp [Write.Sound]⟩
  · simp

end Intact

/-! ## Walking the rolling segment -/

theorem takeOff_lt {remaining sz : Nat} (left : 0 < remaining) (bound : remaining < 65536)
    (some : 0 < sz) : takeOff remaining sz < remaining := by
  rw [takeOff]
  split_ifs with more
  · rw [sub16_of_le more.le bound]
    omega
  · exact left

/-- What a turn of the loop of `next` does to a cursor in the rolling segment. -/
inductive RollingTurn (cursor : Cursor) : Cursor × Option Fetched → Prop
  | leaves (finished : cursor.remaining = 0) :
      RollingTurn cursor ({ cursor with segment := .done }, none)
  | stops (overrun : Bool) (left : 0 < cursor.remaining) :
      RollingTurn cursor ({ cursor with overrun, remaining := 0 }, none)
  | restarts (remaining : Nat) (less : remaining < cursor.remaining) :
      RollingTurn cursor ({ cursor with pos := 0, remaining }, none)
  | takes (pos remaining : Nat) (fetched : Fetched) (inside : pos < rollCap)
      (less : remaining < cursor.remaining) :
      RollingTurn cursor ({ cursor with pos, remaining }, some fetched)

section

variable {region : Region} {data : Nat → UInt8} {cursor : Cursor}

theorem Ranged.rolling_turn (ranged : Ranged region.roll) (data : Nat → UInt8)
    (walks : cursor.segment = .rolling) (inside : cursor.pos < rollCap)
    (bound : cursor.remaining ≤ rollCap) : RollingTurn cursor (fetchStep region data cursor) := by
  have capacity : rollCap = 2048 := rfl
  have apart : ¬ cursor.segment = .boot := by simp [walks]
  have gap : sub16 region.roll.cap cursor.pos = rollCap - cursor.pos := by
    rw [ranged.cap_eq, sub16_of_le (by omega) (by omega)]
  rw [fetchStep]
  simp only [if_neg apart, gap]
  split_ifs with finished lapped tail wrapped corrupt
  · exact .leaves finished
  · exact .stops true (Nat.pos_of_ne_zero finished)
  · exact .restarts _ (takeOff_lt (Nat.pos_of_ne_zero finished) (by omega) (by omega))
  · exact .restarts _ (takeOff_lt (Nat.pos_of_ne_zero finished) (by omega) (by omega))
  · exact .stops cursor.overrun (Nat.pos_of_ne_zero finished)
  · have need := (need_bounds (Nat.le_of_not_lt corrupt)).1
    have eight : hdr = 8 := rfl
    refine .takes _ _ _ ?_ (takeOff_lt (Nat.pos_of_ne_zero finished) (by omega) (by omega))
    rw [ranged.cap_eq]
    exact (Nat.mod_le _ _).trans_lt (Nat.mod_lt _ (by decide))

/-! ### Where a cursor can stand -/

end

/-- A cursor before records of the boot segment, within the rolling one, or done. -/
inductive Stands (boot : List Record) (cursor : Cursor) : Prop
  | boot (walks : cursor.segment = .boot) (gone rest new : List Record)
      (split : boot = gone ++ rest ++ new)
      (pos_eq : cursor.pos = slotBytes (gone.map .record) % bootCap)
      (remaining_eq : cursor.remaining = slotBytes (rest.map .record))
  | rolling (walks : cursor.segment = .rolling) (inside : cursor.pos < rollCap)
      (bound : cursor.remaining ≤ rollCap)
  | done (walks : cursor.segment = .done)

/-- Bytes that a cursor can still walk. -/
def Cursor.ahead (cursor : Cursor) : Nat :=
  match cursor.segment with
  | .boot => cursor.remaining + rollCap
  | .rolling => cursor.remaining
  | .done => 0

/-- What the loop of `next` makes of a cursor: it walks to a record or to the end. -/
structure Walked (boot : List Record) (before after : Cursor) (found : Bool) : Prop where
  stands : Stands boot after
  ends : found = false → after.segment = .done
  advances : found = true → after.ahead < before.ahead

theorem Walked.weaken {boot : List Record} {before before' after : Cursor} {found : Bool}
    (walked : Walked boot before after found) (order : before.ahead ≤ before'.ahead) :
    Walked boot before' after found :=
  ⟨walked.stands, walked.ends, fun some => (walked.advances some).trans_le order⟩

section

variable {region : Region} {boot : List Record} {cursor : Cursor}

/-- With a turn for each byte left, the loop of `next` ends in the rolling segment. -/
theorem Ranged.rolling_walked (ranged : Ranged region.roll) (data : Nat → UInt8) {fuel : Nat}
    (walks : cursor.segment = .rolling) (inside : cursor.pos < rollCap)
    (bound : cursor.remaining ≤ rollCap) (enough : cursor.remaining < fuel) :
    Walked boot cursor (fetchLoop region data fuel cursor).1
      (fetchLoop region data fuel cursor).2.isSome := by
  induction fuel generalizing cursor with
  | zero => omega
  | succ fuel induction =>
      have turn := ranged.rolling_turn data walks inside bound
      rw [fetchLoop, if_neg (by simp [walks])]
      generalize fetchStep region data cursor = result at turn
      cases turn with
      | leaves finished =>
          dsimp only
          rw [yields_done rfl fuel (Nat.zero_le fuel)]
          exact ⟨.done rfl, fun _ => rfl, fun some => by simp at some⟩
      | stops overrun left =>
          have walked := @induction { cursor with overrun, remaining := 0 } walks inside
            (Nat.zero_le _) (show 0 < fuel by omega)
          exact walked.weaken (by simp [Cursor.ahead, walks])
      | restarts remaining less =>
          have walked := @induction { cursor with pos := 0, remaining } walks
            (show 0 < rollCap by decide) (less.le.trans bound) (show remaining < fuel by omega)
          exact walked.weaken (by simpa [Cursor.ahead, walks] using less.le)
      | takes pos remaining fetched inside less =>
          refine ⟨.rolling walks inside (less.le.trans bound), fun none => by simp at none, ?_⟩
          simpa [Cursor.ahead, walks] using less

/-- A cursor before records of the boot segment is one of the reader's cursors. -/
theorem before_boot {data : Nat → UInt8} {gone rest new : List Record}
    (held : BootHeld data region.boot (gone ++ rest ++ new))
    (pos_eq : cursor.pos = slotBytes (gone.map .record) % bootCap)
    (remaining_eq : cursor.remaining = slotBytes (rest.map .record)) :
    ∃ stop, Before data region.boot cursor (rest.map .record) stop := by
  have chain := held.chain
  rw [List.map_append, List.map_append, List.append_assoc] at chain
  obtain ⟨middle, first, second⟩ := chain.split
  obtain ⟨stop, here, -⟩ := second.split
  have total := held.writePos_eq
  have reach := held.writePos_le
  simp only [List.map_append, slotBytes_append] at total
  have position : middle = cursor.pos := by
    rw [first.stop_eq (by decide), pos_eq]
    simp
  refine ⟨stop, held.addressable, ?_, ?_, remaining_eq, ?_, ?_⟩
  · rw [pos_eq, held.cap_eq]
    exact Nat.mod_lt _ (by decide)
  · rw [held.cap_eq, ← position]
    exact here
  · rw [remaining_eq, held.used_eq]
    omega
  · rw [held.used_eq, held.cap_eq]
    exact reach

/-- A record of the boot segment is taken in one turn. -/
theorem boot_takes {data : Nat → UInt8} {gone rest new : List Record} {first : Record}
    (held : BootHeld data region.boot (gone ++ first :: rest ++ new))
    (walks : cursor.segment = .boot)
    (pos_eq : cursor.pos = slotBytes (gone.map .record) % bootCap)
    (remaining_eq : cursor.remaining = slotBytes ((first :: rest).map .record)) :
    ∃ pos remaining fetched,
      fetchStep region data cursor = ({ cursor with pos, remaining }, some fetched) ∧
        pos = slotBytes ((gone ++ [first]).map .record) % bootCap ∧
        remaining = slotBytes (rest.map .record) ∧ remaining < cursor.remaining := by
  obtain ⟨stop, before⟩ := before_boot held pos_eq remaining_eq
  have bounds := first.size_bounds
  have eight : hdr = 8 := rfl
  simp only [List.map_cons, slotBytes_cons, Slot.size] at remaining_eq
  refine ⟨_, _, _, before.record_step (by simp [walked, walks]), ?_, by omega, by omega⟩
  rw [held.cap_eq, pos_eq, Nat.mod_add_mod]
  simp [Slot.size]

end

namespace Intact

variable {store : Store} {boot : List Record} {cursor : Cursor}

/-- The loop of `next` ends, and with a record the cursor has less ahead. -/
theorem fetch_walked (intact : Intact store.rtc boot) (stands : Stands boot cursor) :
    let result := fetchLoop store.rtc.region store.rtc.data
      (cursor.remaining + store.rtc.region.roll.used + 3) cursor
    Walked boot cursor result.1 result.2.isSome := by
  have ranged := intact.ranged
  have used := ranged.used_le
  dsimp only
  cases stands with
  | boot walks gone rest new split pos_eq remaining_eq =>
      subst split
      rw [fetchLoop, if_neg (by simp [walks])]
      cases rest with
      | nil =>
          have left : cursor.remaining = 0 := remaining_eq
          have enters : fetchStep store.rtc.region store.rtc.data cursor =
              (enterRolling store.rtc.region cursor, none) := by
            simp [fetchStep, walks, left, enterRolling]
          rw [enters]
          refine (ranged.rolling_walked store.rtc.data rfl ranged.readStart_lt used ?_).weaken ?_
          · simp only [enterRolling]
            omega
          · simpa [Cursor.ahead, walks, left, enterRolling] using used
      | cons first rest =>
          obtain ⟨pos, remaining, fetched, step, position, left, less⟩ :=
            boot_takes intact.held walks pos_eq remaining_eq
          rw [step]
          refine ⟨.boot walks (gone ++ [first]) rest new (by simp) position left,
            fun none => by simp at none, ?_⟩
          simpa [Cursor.ahead, walks] using less
  | rolling walks inside bound =>
      exact ranged.rolling_walked store.rtc.data walks inside bound (by omega)
  | done walks =>
      rw [yields_done walks _ (Nat.zero_le _)]
      exact ⟨.done walks, fun _ => walks, fun some => by simp at some⟩

/-- A call of `next`. -/
theorem next_walked (intact : Intact store.rtc boot) (stands : Stands boot cursor) {outSize : Nat}
    (wide : 2 ≤ outSize) :
    Walked boot cursor (next store cursor outSize).1 (next store cursor outSize).2.isSome := by
  have walked := intact.fetch_walked stands
  rw [next, if_neg (by omega)]
  dsimp only at walked ⊢
  generalize fetchLoop store.rtc.region store.rtc.data
    (cursor.remaining + store.rtc.region.roll.used + 3) cursor = result at walked ⊢
  obtain ⟨after, found⟩ := result
  cases found with
  | none => exact walked
  | some fetched =>
      refine ⟨?_, fun none => by simp at none, walked.advances⟩
      cases walked.stands with
      | boot walks gone rest new split pos_eq remaining_eq =>
          exact .boot walks gone rest new split pos_eq remaining_eq
      | rolling walks inside bound => exact .rolling walks inside bound
      | done walks => exact .done walks

theorem next_stands (intact : Intact store.rtc boot) (stands : Stands boot cursor)
    (outSize : Nat) : Stands boot (next store cursor outSize).1 := by
  by_cases narrow : outSize < 2
  · rw [next, if_pos narrow]
    exact stands
  · exact (intact.next_walked stands (Nat.le_of_not_lt narrow)).stands

end Intact

/-! ## What a walk reads -/

/-- A record at a position of the rolling segment whose body runs past the end of the segment. -/
def Overhang (region : Region) (data : Nat → UInt8) (pos : Nat) : Prop :=
  let header := readHdr data (u16 (region.roll.base + pos))
  pos + hdr ≤ region.roll.cap ∧ header.flags &&& flagWrap = 0 ∧ header.len ≤ logStoreMaxMsg ∧
    region.roll.cap < pos + hdr + header.len

/-- Where a walk starts in the rolling segment, and how many bytes it may walk there. -/
def rollingStart (region : Region) (cursor : Cursor) : Option (Nat × Nat) :=
  match cursor.segment with
  | .boot =>
      if cursor.remaining = 0 then some (region.roll.readStart, region.roll.used) else none
  | .rolling => some (cursor.pos, cursor.remaining)
  | .done => none

/-- The walk starts at an overhanging record of the rolling segment, which the writer has not
lapped. -/
def Overhangs (region : Region) (data : Nat → UInt8) (cursor : Cursor) : Prop :=
  ∃ start ∈ rollingStart region cursor,
    0 < start.2 ∧ start.2 ≤ region.roll.used ∧ Overhang region data start.1

/-- All addresses lie in the data area. -/
def InArea (addrs : List Nat) : Prop := ∀ addr ∈ addrs, addr < logStoreDataBytes

theorem inArea_nil : InArea [] := fun _ member => by contradiction

theorem inArea_append {left right : List Nat} :
    InArea (left ++ right) ↔ InArea left ∧ InArea right :=
  List.forall_mem_append

theorem inArea_range' {start count : Nat} :
    InArea (List.range' start count) ↔ count = 0 ∨ start + count ≤ logStoreDataBytes := by
  constructor
  · intro inside
    rcases Nat.eq_zero_or_pos count with none | some
    · exact .inl none
    · have last := inside (start + count - 1) (List.mem_range'_1.mpr (by omega))
      omega
  · rintro (rfl | reach) addr member
    · contradiction
    · have before := (List.mem_range'_1.mp member).2
      omega

section

variable {region : Region} {data : Nat → UInt8} {cursor : Cursor} {boot : List Record}

theorem boot_reads (held : BootHeld data region.boot boot) (walks : cursor.segment = .boot) :
    InArea (turnReads region data cursor) := by
  rw [turnReads]
  simp only [if_pos walks, held.base_eq, held.cap_eq]
  generalize readHdr data (u16 (0 + cursor.pos)) = header
  have small : bootCap + 168 ≤ logStoreDataBytes := by decide
  have area : logStoreDataBytes = 7168 := rfl
  have longest : logStoreMaxMsg = 160 := rfl
  have eight : hdr = 8 := rfl
  split_ifs with skipped corrupt
  · exact inArea_nil
  · rw [List.append_nil, inArea_range', u16_of_lt (by omega)]
    omega
  · rw [inArea_append, inArea_range', inArea_range', u16_of_lt (by omega)]
    omega

/-- A turn in the rolling segment reads past the data area at an overhanging record only. -/
theorem Ranged.rolling_reads (ranged : Ranged region.roll) (walks : cursor.segment = .rolling) :
    InArea (turnReads region data cursor) ↔
      ¬ (0 < cursor.remaining ∧ cursor.remaining ≤ region.roll.used ∧
        Overhang region data cursor.pos) := by
  have capacity : bootCap + rollCap = logStoreDataBytes := rfl
  have area : logStoreDataBytes = 7168 := rfl
  have eight : hdr = 8 := rfl
  have apart : ¬ cursor.segment = .boot := by simp [walks]
  rw [turnReads, Overhang]
  simp only [if_neg apart, ranged.base_eq, ranged.cap_eq]
  generalize readHdr data (u16 (bootCap + cursor.pos)) = header
  split_ifs with skipped corrupt
  · refine iff_of_true inArea_nil ?_
    rintro ⟨left, unlapped, room, -⟩
    omega
  · rw [List.append_nil, inArea_range', u16_of_lt (by omega)]
    refine iff_of_true (by omega) ?_
    rintro ⟨-, -, -, unwrapped, short, -⟩
    exact corrupt.elim (fun wrapped => wrapped unwrapped) (fun long => absurd short (by omega))
  · rw [inArea_append, inArea_range', inArea_range', u16_of_lt (by omega)]
    obtain ⟨unwrapped, short⟩ := not_or.mp corrupt
    have unwrapped := not_not.mp unwrapped
    constructor
    · rintro ⟨-, inside⟩ ⟨-, -, -, -, -, beyond⟩
      omega
    · intro fits
      refine ⟨by omega, ?_⟩
      by_contra outside
      exact fits ⟨by omega, by omega, by omega, unwrapped, by omega, by omega⟩

/-- A cursor that is done, has nothing left or has come to the front of the rolling segment. -/
structure Settled (cursor : Cursor) : Prop where
  inside : cursor.pos < rollCap
  bound : cursor.remaining ≤ rollCap
  stays : cursor.segment = .done ∨
    cursor.segment = .rolling ∧ (cursor.pos = 0 ∨ cursor.remaining = 0)

theorem Ranged.front (ranged : Ranged region.roll) : ¬ Overhang region data 0 := by
  have capacity : rollCap = 2048 := rfl
  have longest : logStoreMaxMsg = 160 := rfl
  have eight : hdr = 8 := rfl
  rintro ⟨-, -, short, beyond⟩
  rw [ranged.cap_eq] at beyond
  omega

/-- A turn that takes no record settles the cursor. -/
theorem RollingTurn.settled {result : Cursor × Option Fetched} (turn : RollingTurn cursor result)
    (walks : cursor.segment = .rolling) (inside : cursor.pos < rollCap)
    (bound : cursor.remaining ≤ rollCap) (skipped : result.2 = none) : Settled result.1 := by
  cases turn with
  | leaves finished => exact ⟨inside, bound, .inl rfl⟩
  | stops overrun left => exact ⟨inside, Nat.zero_le _, .inr ⟨walks, .inr rfl⟩⟩
  | restarts remaining less =>
      exact ⟨show 0 < rollCap by decide, less.le.trans bound, .inr ⟨walks, .inl rfl⟩⟩
  | takes => contradiction

/-- The turns after the first one matter only if they settle nothing. -/
theorem fetchReads_succ {fuel : Nat} (walks : cursor.segment ≠ .done)
    (rest : (fetchStep region data cursor).2 = none →
      InArea (fetchReads region data fuel (fetchStep region data cursor).1)) :
    InArea (fetchReads region data (fuel + 1) cursor) ↔ InArea (turnReads region data cursor) := by
  rw [fetchReads, if_neg walks, inArea_append, and_iff_left_iff_imp]
  intro _
  generalize fetchStep region data cursor = result at rest ⊢
  obtain ⟨after, found⟩ := result
  cases found with
  | none => exact rest rfl
  | some fetched => exact inArea_nil

/-- A settled cursor reads nothing beyond the data area. -/
theorem Ranged.settled_reads (ranged : Ranged region.roll) (fuel : Nat) (settled : Settled cursor) :
    InArea (fetchReads region data fuel cursor) := by
  induction fuel generalizing cursor with
  | zero => exact inArea_nil
  | succ fuel induction =>
      obtain ⟨inside, bound, done | ⟨walks, stays⟩⟩ := settled
      · rw [fetchReads, if_pos done]
        exact inArea_nil
      · rw [fetchReads_succ (by simp [walks]) fun skipped => induction
          ((ranged.rolling_turn data walks inside bound).settled walks inside bound skipped),
          ranged.rolling_reads walks]
        rintro ⟨left, -, overhang⟩
        rcases stays with front | finished
        · exact ranged.front (front ▸ overhang)
        · omega

/-- A walk in the rolling segment reads past the data area at its start or not at all. -/
theorem Ranged.rolling_fetchReads (ranged : Ranged region.roll) (fuel : Nat)
    (walks : cursor.segment = .rolling) (inside : cursor.pos < rollCap)
    (bound : cursor.remaining ≤ rollCap) :
    InArea (fetchReads region data (fuel + 1) cursor) ↔ ¬ Overhangs region data cursor := by
  rw [fetchReads_succ (by simp [walks]) fun skipped => ranged.settled_reads fuel
    ((ranged.rolling_turn data walks inside bound).settled walks inside bound skipped),
    ranged.rolling_reads walks]
  simp [Overhangs, rollingStart, walks]

end

/-- A call of `next` stays in the data area exactly if its walk does not start at an overhanging
record of the rolling segment. -/
theorem Intact.nextReads_iff {store : Store} {boot : List Record} {cursor : Cursor}
    (intact : Intact store.rtc boot) (stands : Stands boot cursor) {outSize : Nat}
    (wide : 2 ≤ outSize) :
    InArea (nextReads store cursor outSize) ↔
      ¬ Overhangs store.rtc.region store.rtc.data cursor := by
  have ranged := intact.ranged
  have used := ranged.used_le
  rw [nextReads, if_neg (by omega)]
  cases stands with
  | boot walks gone rest new split pos_eq remaining_eq =>
      subst split
      cases rest with
      | nil =>
          have left : cursor.remaining = 0 := remaining_eq
          have enters : fetchStep store.rtc.region store.rtc.data cursor =
              (enterRolling store.rtc.region cursor, none) := by
            simp [fetchStep, walks, left, enterRolling]
          have nothing : turnReads store.rtc.region store.rtc.data cursor = [] := by
            simp [turnReads, left]
          have same : Overhangs store.rtc.region store.rtc.data cursor ↔
              Overhangs store.rtc.region store.rtc.data (enterRolling store.rtc.region cursor) := by
            simp [Overhangs, rollingStart, enterRolling, walks, left]
          rw [fetchReads, if_neg (by simp [walks]), enters, nothing, same]
          exact @Ranged.rolling_fetchReads store.rtc.region store.rtc.data
            (enterRolling store.rtc.region cursor) ranged _ rfl ranged.readStart_lt used
      | cons first rest =>
          obtain ⟨pos, remaining, fetched, step, -, -, less⟩ :=
            boot_takes intact.held walks pos_eq remaining_eq
          rw [fetchReads_succ (by simp [walks]) fun skipped => by simp [step] at skipped]
          refine iff_of_true (boot_reads intact.held walks) ?_
          rintro ⟨start, enters, -⟩
          simp [rollingStart, walks, show cursor.remaining ≠ 0 by omega] at enters
  | rolling walks inside bound => exact ranged.rolling_fetchReads _ walks inside bound
  | done walks =>
      rw [fetchReads, if_pos walks]
      refine iff_of_true inArea_nil ?_
      rintro ⟨start, enters, -⟩
      simp [rollingStart, walks] at enters

/-! ## Any sequence of calls -/

/-- The log store and the cursors of its readers. -/
structure Host where
  store : Store
  cursors : List Cursor

/-- A call. A reader goes by the position of its cursor. -/
inductive Call
  | sink (level : LogLevel) (message : Option CString) (timestamp : UInt32)
  | openRead
  | next (reader outSize : Nat)

/-- The calls after `begin`. -/
def hosting (build : Build) (resetReason : UInt32) (rtc : Rtc) : StepSystem Host Call where
  start := ⟨begin build resetReason rtc, []⟩
  next host
    | .sink level message timestamp =>
        some { host with store := sink host.store level message timestamp }
    | .openRead => some { host with cursors := host.cursors ++ [openRead host.store] }
    | .next reader outSize =>
        host.cursors[reader]?.map fun cursor =>
          { host with cursors := host.cursors.set reader (next host.store cursor outSize).1 }

namespace Host

/-- The bytes that a call reads. -/
def reads (host : Host) : Call → List Nat
  | .sink level (some message) timestamp => sinkReads host.store level message timestamp
  | .next reader outSize =>
      (host.cursors[reader]?.map fun cursor => nextReads host.store cursor outSize).getD []
  | _ => []

/-- The stores that a call makes. -/
def writes (host : Host) : Call → List Write
  | .sink level (some message) timestamp => sinkWrites host.store level message timestamp
  | _ => []

/-- The loops of a call end: the two evictions of `appendCircular`, and the walk of `next`. -/
def Ends (host : Host) : Call → Prop
  | .sink level (some message) timestamp =>
      let rtc := host.store.rtc
      let r := rtc.region.roll
      let need := u16 (hdr + roundUp4 (lineHeader level message timestamp).len)
      let tailGap := sub16 r.cap r.writePos
      let filled := fillTail r rtc.data rtc.region.dropped need
      ¬ Evicts (evict rtc.data r tailGap rtc.region.dropped).1 tailGap ∧
        ¬ Evicts (evict filled.2.1 filled.1 need filled.2.2).1 need
  | .next reader outSize =>
      ∀ cursor ∈ host.cursors[reader]?, 2 ≤ outSize →
        (next host.store cursor outSize).2 = none →
          (next host.store cursor outSize).1.segment = .done
  | _ => True

/-- A call that accesses the data area only, keeps within the capacities, and ends. -/
structure Safe (host : Host) (call : Call) : Prop where
  reads : InArea (host.reads call)
  writes : ∀ write ∈ host.writes call, write.Sound
  ends : host.Ends call

/-- A call of `next` that comes to an overhanging record first. -/
def Overruns (host : Host) : Call → Prop
  | .next reader outSize =>
      2 ≤ outSize ∧ ∃ cursor ∈ host.cursors[reader]?,
        Overhangs host.store.rtc.region host.store.rtc.data cursor
  | _ => False

end Host

/-- Call `next` until it returns false, with any calls of `sink` after each call. -/
def drainAmid (outSize : Nat) (between : Nat → List SinkCall) :
    Nat → Store → Cursor → Option (Store × Cursor)
  | 0, _, _ => none
  | calls + 1, store, cursor =>
      match next store cursor outSize with
      | (cursor, none) => some (store, cursor)
      | (cursor, some _) =>
          drainAmid outSize between calls ((between calls).foldl SinkCall.onStore store) cursor

theorem Stands.append {boot : List Record} {cursor : Cursor} (stands : Stands boot cursor)
    (added : List Record) : Stands (boot ++ added) cursor := by
  cases stands with
  | boot walks gone rest new split pos_eq remaining_eq =>
      exact .boot walks gone rest (new ++ added) (by simp [split]) pos_eq remaining_eq
  | rolling walks inside bound => exact .rolling walks inside bound
  | done walks => exact .done walks

/-- The store is intact, and all cursors stand somewhere in it. -/
def Attended (store : Store) (cursors : List Cursor) : Prop :=
  ∃ boot, Intact store.rtc boot ∧ ∀ cursor ∈ cursors, Stands boot cursor

theorem Attended.sink {store : Store} {cursors : List Cursor} (attended : Attended store cursors)
    (call : SinkCall) : Attended (call.onStore store) cursors := by
  obtain ⟨boot, intact, stands⟩ := attended
  exact ⟨_, intact.onStore call, fun cursor member => (stands cursor member).append _⟩

theorem Attended.sinks {store : Store} {cursors : List Cursor} (attended : Attended store cursors)
    (calls : List SinkCall) : Attended (calls.foldl SinkCall.onStore store) cursors := by
  induction calls generalizing store with
  | nil => exact attended
  | cons call calls induction => exact induction (attended.sink call)

theorem BootHeld.stands {store : Store} {boot : List Record}
    (held : BootHeld store.rtc.data store.rtc.region.boot boot) : Stands boot (openRead store) := by
  refine .boot rfl [] boot [] (by simp) ?_ ?_
  · simp [openRead, held.readStart_eq]
  · simp only [openRead, held.used_eq, held.writePos_eq]

theorem Attended.reached {build : Build} {reason : UInt32} {rtc : Rtc}
    {Allowed : Host → Call → Prop} {host : Host}
    (reach : (hosting build reason rtc).Reaches Allowed host) :
    Attended host.store host.cursors := by
  refine @StepSystem.Reaches.invariant _ _ _ _ _ (fun host => Attended host.store host.cursors)
    reach ⟨_, begin_intact build reason rtc, fun _ member => by contradiction⟩ ?_
  rintro before call after ⟨boot, intact, stands⟩ - moves
  cases call with
  | sink level message timestamp =>
      obtain rfl := Option.some.inj moves
      exact Attended.sink ⟨boot, intact, stands⟩ ⟨level, message, timestamp⟩
  | openRead =>
      obtain rfl := Option.some.inj moves
      refine ⟨boot, intact, fun cursor member => ?_⟩
      rcases List.mem_append.mp member with before | now
      · exact stands cursor before
      · rw [List.mem_singleton.mp now]
        exact intact.held.stands
  | next reader outSize =>
      obtain ⟨cursor, here, rfl⟩ := Option.map_eq_some_iff.mp moves
      refine ⟨boot, intact, fun other member => ?_⟩
      rcases List.mem_or_eq_of_mem_set member with before | rfl
      · exact stands other before
      · exact intact.next_stands (stands cursor (List.mem_of_getElem? here)) outSize

theorem Intact.ahead_le {store : Store} {boot : List Record} {cursor : Cursor}
    (intact : Intact store.rtc boot) (stands : Stands boot cursor) :
    cursor.ahead ≤ logStoreDataBytes := by
  have capacity : bootCap + rollCap = logStoreDataBytes := rfl
  cases stands with
  | boot walks gone rest new split pos_eq remaining_eq =>
      have total := intact.held.writePos_eq
      have reach := intact.held.writePos_le
      simp only [split, List.map_append, slotBytes_append] at total
      simp only [Cursor.ahead, walks]
      omega
  | rolling walks inside bound =>
      simp only [Cursor.ahead, walks]
      omega
  | done walks => simp [Cursor.ahead, walks]

/-- A drain ends, whatever is logged in the meantime. -/
theorem drainAmid_isSome (outSize : Nat) (between : Nat → List SinkCall) {calls : Nat}
    {store : Store} {cursor : Cursor} (attended : Attended store [cursor])
    (enough : cursor.ahead < calls) :
    (drainAmid outSize between calls store cursor).isSome = true := by
  induction calls generalizing store cursor with
  | zero => omega
  | succ calls induction =>
      obtain ⟨boot, intact, stands⟩ := attended
      have stands := stands cursor (List.mem_singleton_self cursor)
      rw [drainAmid]
      by_cases narrow : outSize < 2
      · rw [next, if_pos narrow]
        rfl
      · have walked := intact.next_walked stands (Nat.le_of_not_lt narrow)
        generalize next store cursor outSize = result at walked
        obtain ⟨after, found⟩ := result
        cases found with
        | none => rfl
        | some line =>
            have advances : after.ahead < cursor.ahead := walked.advances rfl
            have attended : Attended store [after] :=
              ⟨boot, intact, by simpa using walked.stands⟩
            exact induction (attended.sinks (between calls)) (by omega)

/-! ## The marker -/

/-- The store that `begin` logs its marker to. -/
def Rtc.unmarked (rtc : Rtc) (reason : UInt32) : Store :=
  { rtc := rtc.restarted reason, capture := .fresh }

/-- The header of the marker in the rolling segment. -/
def markerHeader (marker : CString) : Header :=
  { len := u16 marker.strlen, level := LogLevel.info.code, flags := flagBoot, ts := 0 }

/-- The bytes that `begin` reads. -/
def beginReads (build : Build) (reason : UInt32) (rtc : Rtc) : List Nat :=
  let marker := rtc.marker build reason
  let first := (sink (rtc.unmarked reason) .info (some marker) 0).rtc
  sinkReads (rtc.unmarked reason) .info marker 0 ++
    circularReads first.region.roll first.data (markerHeader marker) first.region.dropped

/-- The stores that `begin` makes for its marker. -/
def beginWrites (build : Build) (reason : UInt32) (rtc : Rtc) : List Write :=
  let marker := rtc.marker build reason
  let first := (sink (rtc.unmarked reason) .info (some marker) 0).rtc
  sinkWrites (rtc.unmarked reason) .info marker 0 ++
    circularWrites first.region.roll first.data (markerHeader marker) marker.bytes
      first.region.dropped ++
    [.seq (first.region.seq + 1)]

theorem beginWrites_foldl (build : Build) (reason : UInt32) (rtc : Rtc) :
    (beginWrites build reason rtc).foldl Write.apply (rtc.restarted reason) =
      (begin build reason rtc).rtc := by
  have logged := sinkWrites_foldl (rtc.unmarked reason) .info (rtc.marker build reason) 0
  rw [show (rtc.unmarked reason).rtc = rtc.restarted reason from rfl] at logged
  rw [beginWrites, List.foldl_append, List.foldl_append, logged, circularWrites_foldl,
    List.foldl_cons, List.foldl_nil, ← appendRolling_seq, apply_seq]
  rfl

theorem begin_sound (build : Build) (reason : UInt32) (rtc : Rtc) :
    InArea (beginReads build reason rtc) ∧
      ∀ write ∈ beginWrites build reason rtc, write.Sound := by
  have restarted : Intact (rtc.unmarked reason).rtc [] :=
    ⟨BootHeld.empty rtc.data, ranged_recover rtc.region⟩
  have first := restarted.sink .info (rtc.marker build reason) 0
  have short : (markerHeader (rtc.marker build reason)).len ≤ logStoreMaxMsg :=
    (Nat.mod_le _ _).trans (bootMarker_strlen_lt build _ _).le
  constructor
  · exact inArea_append.mpr ⟨fun _ => restarted.sinkReads_lt,
      fun _ => first.ranged.circularReads_lt short _⟩
  · rw [beginWrites, List.forall_mem_append, List.forall_mem_append]
    exact ⟨⟨restarted.sinkWrites_sound, first.ranged.circularWrites_sound short _ _⟩,
      by simp [Write.Sound]⟩

/-! ## The accesses of all calls -/

theorem Intact.sink_safe {host : Host} {boot : List Record} (intact : Intact host.store.rtc boot)
    (level : LogLevel) (message : Option CString) (timestamp : UInt32) :
    host.Safe (.sink level message timestamp) := by
  cases message with
  | none => exact ⟨inArea_nil, fun _ member => by contradiction, trivial⟩
  | some message =>
      have used := intact.ranged.used_le
      have capacity : rollCap = 2048 := rfl
      have need := need_bounds (lineHeader_len level message timestamp).1
      have filled := (fillTail_ranged host.store.rtc.data intact.ranged
        host.store.rtc.region.dropped (need.2.trans (by decide))).ranged.used_le
      exact ⟨fun _ => intact.sinkReads_lt, intact.sinkWrites_sound,
        evict_ends _ _ _ _ (by omega), evict_ends _ _ _ _ (by omega)⟩

theorem Intact.next_safe_iff {host : Host} {boot : List Record}
    (intact : Intact host.store.rtc boot) {reader : Nat} {cursor : Cursor}
    (here : host.cursors[reader]? = some cursor) (stands : Stands boot cursor) (outSize : Nat) :
    host.Safe (.next reader outSize) ↔ ¬ host.Overruns (.next reader outSize) := by
  have ends : host.Ends (.next reader outSize) := fun other same wide skipped => by
    obtain rfl : cursor = other := by simpa [here] using same
    exact (intact.next_walked stands wide).ends (by simp [skipped])
  have reads : host.reads (.next reader outSize) = nextReads host.store cursor outSize := by
    simp [Host.reads, here]
  have overruns : host.Overruns (.next reader outSize) ↔
      2 ≤ outSize ∧ Overhangs host.store.rtc.region host.store.rtc.data cursor := by
    simp [Host.Overruns, here]
  have safe : host.Safe (.next reader outSize) ↔ InArea (nextReads host.store cursor outSize) :=
    ⟨fun safe => reads ▸ safe.reads,
      fun inside => ⟨reads.symm ▸ inside, fun _ member => by contradiction, ends⟩⟩
  rw [safe, overruns]
  by_cases narrow : outSize < 2
  · rw [nextReads, if_pos narrow]
    exact iff_of_true inArea_nil (by omega)
  · rw [intact.nextReads_iff stands (by omega), not_and]
    exact ⟨fun fits _ => fits, fun fits => fits (by omega)⟩

/-- A call is safe exactly if it is no call of `next` that comes to an overhanging record first. -/
theorem Attended.safe_iff {host : Host} (attended : Attended host.store host.cursors)
    (call : Call) : host.Safe call ↔ ¬ host.Overruns call := by
  obtain ⟨boot, intact, stands⟩ := attended
  cases call with
  | sink level message timestamp =>
      exact iff_of_true (intact.sink_safe level message timestamp) not_false
  | openRead =>
      exact iff_of_true ⟨inArea_nil, fun _ member => by contradiction, trivial⟩ not_false
  | next reader outSize =>
      cases here : host.cursors[reader]? with
      | none =>
          refine iff_of_true ⟨?_, fun _ member => by contradiction, ?_⟩ ?_
          · rw [Host.reads, here]
            exact inArea_nil
          · simp [Host.Ends, here]
          · simp [Host.Overruns, here]
      | some cursor =>
          exact intact.next_safe_iff here (stands cursor (List.mem_of_getElem? here)) outSize

/-- Whatever RTC memory holds when the chip starts: `begin` and all calls after it access the data
area only, keep within the capacities and end, but for the calls of `next` that come to an
overhanging record first. A drain ends. -/
theorem accesses_in_area (build : Build) (reason : UInt32) (rtc : Rtc) {host : Host}
    (reach : (hosting build reason rtc).Reaches (fun _ _ => True) host) :
    InArea (beginReads build reason rtc) ∧
      (∀ write ∈ beginWrites build reason rtc, write.Sound) ∧
      host.store.rtc.region.boot.used ≤ bootCap ∧ host.store.rtc.region.roll.used ≤ rollCap ∧
      (∀ call, host.Safe call ↔ ¬ host.Overruns call) ∧
      ∀ cursor ∈ host.cursors, ∀ outSize between,
        (drainAmid outSize between (logStoreDataBytes + 1) host.store cursor).isSome = true := by
  have attended := Attended.reached reach
  obtain ⟨reads, writes⟩ := begin_sound build reason rtc
  obtain ⟨boot, intact, stands⟩ := id attended
  refine ⟨reads, writes, ?_, intact.ranged.used_le, attended.safe_iff, ?_⟩
  · rw [intact.held.used_eq]
    exact intact.held.writePos_le
  · intro cursor member outSize between
    have stands := stands cursor member
    exact drainAmid_isSome outSize between ⟨boot, intact, by simpa using stands⟩
      (Nat.lt_succ_of_le (intact.ahead_le stands))

/-- RTC memory with a header near the end of the rolling segment that claims 160 bytes. -/
def Rtc.overhanging : Rtc where
  region :=
    { magic := lsMagic, version := lsVersion, pad := 0, boot := resetRing 0 bootCap
      roll := { resetRing bootCap rollCap with readStart := 2000, used := 168 }
      seq := 0, dropped := 0, bootCount := 0, resetReason := 0 }
  data := fun addr => if addr = bootCap + 2000 then 160 else 0

/-- An error is logged, and a cursor is opened and moved once. The next error is safe to log, the
cursor's next call comes to the overhanging record, and a drain from there ends. -/
theorem accesses_in_area_overhanging :
    ∃ host, (hosting .unknown 1 .overhanging).Reaches (fun _ _ => True) host ∧
      host.store.rtc.region.roll.used ≤ rollCap ∧
      host.Safe (.sink .error (some (.literal "lost" (by decide))) 70001) ∧
      host.Overruns (.next 0 224) ∧
      ∃ cursor, host.cursors = [cursor] ∧
        (drainAmid 224 (fun _ => []) (logStoreDataBytes + 1) host.store cursor).isSome = true := by
  have fresh : (hosting .unknown 1 .overhanging).Reaches (fun _ _ => True) _ := .start
  obtain ⟨host, reach, facts⟩ := fresh.test
    [.sink .error (some (.literal "lost" (by decide))) 70000, .openRead, .next 0 224]
    (fun host => (host.reads (.next 0 224)).any (logStoreDataBytes ≤ ·) &&
      host.cursors.length == 1) (by decide +kernel)
  simp only [Bool.and_eq_true, List.any_eq_true, decide_eq_true_eq, beq_iff_eq] at facts
  obtain ⟨⟨addr, read, outside⟩, one⟩ := facts
  obtain ⟨cursor, cursors⟩ := List.length_eq_one_iff.mp one
  obtain ⟨-, -, -, used, safe, ends⟩ := accesses_in_area .unknown 1 .overhanging reach
  refine ⟨host, reach, used, (safe _).mpr not_false, ?_, cursor, cursors,
    ends cursor (by simp [cursors]) 224 _⟩
  by_contra fits
  have inside := ((safe _).mpr fits).reads addr read
  omega

/-- `begin` accepts the region, and the second call of `next` reads past the data area. -/
theorem overhanging_read_outside :
    Rtc.overhanging.region.valid = true ∧
      ∃ host, (hosting .unknown 1 .overhanging).Reaches (fun _ _ => True) host ∧
        ∃ addr ∈ host.reads (.next 0 224), logStoreDataBytes ≤ addr := by
  refine ⟨by decide, ?_⟩
  have fresh : (hosting .unknown 1 .overhanging).Reaches (fun _ _ => True) _ := .start
  obtain ⟨host, reach, outside⟩ := fresh.test [.openRead, .next 0 224]
    (fun host => (host.reads (.next 0 224)).any (logStoreDataBytes ≤ ·)) (by decide +kernel)
  exact ⟨host, reach, by simpa using outside⟩

end ModbusBridge.LogStore
