import ModbusBridge.Library.CutShort
import ModbusBridge.LogStore.Refinement

/-!
# The single stores of a logged line

The call of `sink` is taken apart into the stores that it makes to RTC memory, one by one and in
the order of the source. Together they are the call.
-/

namespace ModbusBridge.LogStore

open Memory BlockRing ESPLogger CutShort

/-! ## Single stores -/

/-- The fields of `Ring`. -/
inductive RingField
  | base
  | cap
  | writePos
  | readStart
  | used
  deriving DecidableEq

/-- Assign one field. -/
def Ring.assign (r : Ring) (value : Nat) : RingField → Ring
  | .base => { r with base := value }
  | .cap => { r with cap := value }
  | .writePos => { r with writePos := value }
  | .readStart => { r with readStart := value }
  | .used => { r with used := value }

/-- The statement groups that assign fields of the rolling segment: the loop of `evict`, its call of
`resetRing`, the filler part of `appendCircular`, and the end of `appendCircular`. -/
inductive Site
  | evict
  | salvage
  | tail
  | record
  deriving DecidableEq

/-- One store to RTC memory. -/
inductive Write
  | byte (addr : Nat) (value : UInt8)
  | boot (field : RingField) (value : Nat)
  | roll (site : Site) (field : RingField) (value : Nat)
  | dropped (value : UInt32)
  | seq (value : UInt32)
  deriving DecidableEq

namespace Write

/-- The effect of one store. -/
def apply (rtc : Rtc) : Write → Rtc
  | byte addr value => { rtc with data := write rtc.data addr [value] }
  | boot field value =>
      { rtc with region := { rtc.region with boot := rtc.region.boot.assign value field } }
  | roll _ field value =>
      { rtc with region := { rtc.region with roll := rtc.region.roll.assign value field } }
  | dropped value => { rtc with region := { rtc.region with dropped := value } }
  | seq value => { rtc with region := { rtc.region with seq := value } }

/-- Stores that leave the fields of the rolling segment at odds until the next store: `readStart`
before `used` in the loop of `evict`, `used` before `writePos` for the filler, and `writePos` before
`used` for the record. -/
def torn : Write → Bool
  | roll .evict .readStart _ => true
  | roll .tail .used _ => true
  | roll .record .writePos _ => true
  | _ => false

end Write

/-- Consecutive byte stores. -/
def byteWrites (off : Nat) : Bytes → List Write
  | [] => []
  | byte :: bytes => .byte off byte :: byteWrites (off + 1) bytes

/-- The stores of `evictLoop`. -/
def evictWrites (data : Nat → UInt8) (need : Nat) : Nat → Ring → UInt32 → List Write
  | 0, _, _ => []
  | fuel + 1, r, dropped =>
      if r.used + need > r.cap ∧ r.used > 0 then
        let sz := recordSizeAt data r r.readStart
        if sz = 0 ∨ sz > r.used then
          [.roll .salvage .base r.base, .roll .salvage .cap r.cap, .roll .salvage .writePos 0,
            .roll .salvage .readStart 0, .roll .salvage .used 0]
        else
          let readStart := u16 ((r.readStart + sz) % r.cap)
          let used := sub16 r.used sz
          [.roll .evict .readStart readStart, .roll .evict .used used, .dropped (dropped + 1)] ++
            evictWrites data need fuel { r with readStart, used } (dropped + 1)
      else []

/-- The stores of `writeRecord`. -/
def recordWrites (off : Nat) (header : Header) (msg : Bytes) (need : Nat) : List Write :=
  byteWrites off (headerBytes header) ++ byteWrites (off + hdr) (msg.take header.len) ++
    byteWrites (off + hdr + header.len) (List.replicate (need - (hdr + header.len)) 0)

/-- The stores of `fillTail`. -/
def tailWrites (r : Ring) (data : Nat → UInt8) (dropped : UInt32) (need : Nat) : List Write :=
  let tailGap := sub16 r.cap r.writePos
  if tailGap < need then
    let evicted := (evict data r tailGap dropped).1
    evictWrites data tailGap r.used r dropped ++
      (if tailGap ≥ hdr then
        byteWrites (u16 (evicted.base + evicted.writePos))
          (headerBytes { len := 0, level := 0, flags := flagWrap, ts := 0 })
      else []) ++
      [.roll .tail .used (u16 (evicted.used + tailGap)), .roll .tail .writePos 0]
  else []

/-- The stores of `appendCircular`. -/
def circularWrites (r : Ring) (data : Nat → UInt8) (header : Header) (msg : Bytes)
    (dropped : UInt32) : List Write :=
  let need := u16 (hdr + roundUp4 header.len)
  let filled := fillTail r data dropped need
  let evicted := (evict filled.2.1 filled.1 need filled.2.2).1
  tailWrites r data dropped need ++
    evictWrites filled.2.1 need filled.1.used filled.1 filled.2.2 ++
    recordWrites (u16 (evicted.base + evicted.writePos)) header msg need ++
    [.roll .record .writePos (u16 ((evicted.writePos + need) % evicted.cap)),
      .roll .record .used (u16 (evicted.used + need))]

/-- The stores of `appendBoot`, when the record fits. -/
def bootWrites (r : Ring) (header : Header) (msg : Bytes) : List Write :=
  let need := u16 (hdr + roundUp4 header.len)
  let writePos := u16 (r.writePos + need)
  recordWrites (u16 (r.base + r.writePos)) header msg need ++
    [.boot .writePos writePos, .boot .used writePos]

/-- The stores of the locked part of `sink` up to the sequence number. -/
def routeWrites (rtc : Rtc) (header : Header) (message : CString) (timestamp : UInt32) :
    List Write :=
  if timestamp < logBootWindowMs ∧
      (appendBoot rtc.region.boot rtc.data header message.bytes).isSome then
    bootWrites rtc.region.boot header message.bytes
  else
    circularWrites rtc.region.roll rtc.data header message.bytes rtc.region.dropped

/-- The stores of `sink`. -/
def sinkWrites (store : Store) (level : LogLevel) (message : CString) (timestamp : UInt32) :
    List Write :=
  if store.capture.shouldCapture level timestamp then
    routeWrites store.rtc (lineHeader level message timestamp) message timestamp ++
      [.seq (store.rtc.region.seq + 1)]
  else []

/-! ## The stores add up to the call -/

/-- RTC memory with its data area replaced. -/
def Rtc.setData (rtc : Rtc) (data : Nat → UInt8) : Rtc := { rtc with data }

theorem byteWrites_foldl (rtc : Rtc) (off : Nat) (bytes : Bytes) :
    (byteWrites off bytes).foldl Write.apply rtc = rtc.setData (write rtc.data off bytes) := by
  induction bytes generalizing rtc off with
  | nil => simp [byteWrites, Rtc.setData]
  | cons byte bytes induction =>
      rw [byteWrites, List.foldl_cons, induction, write_cons]
      rfl

theorem byteWrites_append (off : Nat) (left right : Bytes) :
    byteWrites off (left ++ right) =
      byteWrites off left ++ byteWrites (off + left.length) right := by
  induction left generalizing off with
  | nil => rfl
  | cons byte bytes induction =>
      rw [List.cons_append, byteWrites, byteWrites, induction, List.cons_append, List.length_cons,
        Nat.add_assoc, Nat.add_comm 1]

theorem mem_byteWrites {off : Nat} {bytes : Bytes} {write : Write}
    (member : write ∈ byteWrites off bytes) :
    ∃ addr value, write = .byte addr value ∧ addr < off + bytes.length := by
  induction bytes generalizing off with
  | nil => simp [byteWrites] at member
  | cons byte bytes induction =>
      rcases List.mem_cons.mp member with rfl | later
      · exact ⟨off, byte, rfl, by simp⟩
      · obtain ⟨addr, value, store, inside⟩ := induction later
        exact ⟨addr, value, store, by simp; omega⟩

theorem recordWrites_foldl (rtc : Rtc) (off : Nat) (header : Header) (msg : Bytes) (need : Nat) :
    (recordWrites off header msg need).foldl Write.apply rtc =
      rtc.setData (writeRecord rtc.data off header msg need) := by
  rw [recordWrites, List.foldl_append, List.foldl_append, byteWrites_foldl, byteWrites_foldl,
    byteWrites_foldl]
  rfl

section

variable (rtc : Rtc) (r : Ring) (data : Nat → UInt8) (dropped : UInt32)

theorem setRolling_self : rtc.setRolling rtc.region.roll rtc.data rtc.region.dropped = rtc := rfl

theorem setRolling_setData (data' : Nat → UInt8) :
    (rtc.setRolling r data dropped).setData data' = rtc.setRolling r data' dropped := rfl

theorem setRolling_data : (rtc.setRolling r data dropped).data = data := rfl

theorem apply_roll (site : Site) (field : RingField) (value : Nat) :
    Write.apply (rtc.setRolling r data dropped) (.roll site field value) =
      rtc.setRolling (r.assign value field) data dropped := rfl

theorem setRolling_seq :
    (rtc.setRolling r data dropped).region.seq = rtc.region.seq := rfl

theorem apply_seq : Write.apply rtc (.seq (rtc.region.seq + 1)) = rtc.bumpSeq := rfl

theorem apply_dropped (value : UInt32) :
    Write.apply (rtc.setRolling r data dropped) (.dropped value) =
      rtc.setRolling r data value := rfl

end

theorem appendRolling_seq (rtc : Rtc) (header : Header) (message : CString) :
    (rtc.appendRolling header message).region.seq = rtc.region.seq := by
  rw [Rtc.appendRolling, setRolling_seq]

theorem evictWrites_foldl (rtc : Rtc) (data : Nat → UInt8) (need fuel : Nat) (r : Ring)
    (dropped : UInt32) :
    (evictWrites data need fuel r dropped).foldl Write.apply (rtc.setRolling r data dropped) =
      rtc.setRolling (evictLoop data need fuel r dropped).1 data
        (evictLoop data need fuel r dropped).2 := by
  induction fuel generalizing r dropped with
  | zero => rfl
  | succ fuel induction =>
      rw [evictWrites, evictLoop]
      split
      · dsimp only
        split
        · simp only [List.foldl_cons, List.foldl_nil, apply_roll, Ring.assign, resetRing]
        · simp only [List.foldl_append, List.foldl_cons, List.foldl_nil, apply_roll,
            apply_dropped, Ring.assign, induction]
      · rfl

theorem evicted_foldl (rtc : Rtc) {data : Nat → UInt8} {need : Nat} {r after : Ring}
    {dropped count : UInt32} (evicted : evict data r need dropped = (after, count)) :
    (evictWrites data need r.used r dropped).foldl Write.apply (rtc.setRolling r data dropped) =
      rtc.setRolling after data count := by
  rw [evictWrites_foldl, ← evict, evicted]

theorem closed_foldl (rtc : Rtc) (r : Ring) (data : Nat → UInt8) (dropped : UInt32) (used : Nat) :
    [Write.roll .tail .used used, .roll .tail .writePos 0].foldl Write.apply
      (rtc.setRolling r data dropped) =
        rtc.setRolling { r with used, writePos := 0 } data dropped := by
  rw [List.foldl_cons, List.foldl_cons, List.foldl_nil, apply_roll, apply_roll]
  rfl

theorem tailWrites_foldl (rtc : Rtc) (r : Ring) (data : Nat → UInt8) (dropped : UInt32)
    (need : Nat) :
    (tailWrites r data dropped need).foldl Write.apply (rtc.setRolling r data dropped) =
      rtc.setRolling (fillTail r data dropped need).1 (fillTail r data dropped need).2.1
        (fillTail r data dropped need).2.2 := by
  rw [tailWrites]
  by_cases tight : sub16 r.cap r.writePos < need
  · rcases evicted : evict data r (sub16 r.cap r.writePos) dropped with ⟨after, count⟩
    rw [fillTail_eq tight evicted, if_pos tight, List.foldl_append, List.foldl_append,
      evicted_foldl rtc evicted]
    by_cases wide : sub16 r.cap r.writePos ≥ hdr
    · rw [if_pos wide, if_pos wide, byteWrites_foldl, setRolling_setData, setRolling_data,
        closed_foldl, writeHdr]
    · rw [if_neg wide, if_neg wide, List.foldl_nil, closed_foldl]
  · rw [fillTail_of_not tight, if_neg tight, List.foldl_nil]

theorem circularWrites_foldl (rtc : Rtc) (header : Header) (message : CString) :
    (circularWrites rtc.region.roll rtc.data header message.bytes rtc.region.dropped).foldl
      Write.apply rtc = rtc.appendRolling header message := by
  have filled := tailWrites_foldl rtc rtc.region.roll rtc.data rtc.region.dropped
    (u16 (hdr + roundUp4 header.len))
  rw [setRolling_self] at filled
  rw [circularWrites, Rtc.appendRolling]
  rcases closed : fillTail rtc.region.roll rtc.data rtc.region.dropped
    (u16 (hdr + roundUp4 header.len)) with ⟨middle, data, count⟩
  rw [closed] at filled
  rcases evicted : evict data middle (u16 (hdr + roundUp4 header.len)) count with ⟨after, last⟩
  rw [appendCircular_eq message.bytes rfl closed evicted, List.foldl_append, List.foldl_append,
    List.foldl_append, filled, evicted_foldl rtc evicted, recordWrites_foldl, setRolling_setData,
    setRolling_data]
  simp only [List.foldl_cons, List.foldl_nil, apply_roll, Ring.assign]

theorem bootWrites_foldl {rtc : Rtc} {header : Header} {message : CString} {boot : Ring}
    {data : Nat → UInt8}
    (stored : appendBoot rtc.region.boot rtc.data header message.bytes = some (boot, data)) :
    (bootWrites rtc.region.boot header message.bytes).foldl Write.apply rtc =
      { region := { rtc.region with boot }, data } := by
  rw [appendBoot] at stored
  dsimp only at stored
  split at stored
  · simp at stored
  · obtain ⟨rfl, rfl⟩ := Prod.mk.inj (Option.some.inj stored)
    rw [bootWrites, List.foldl_append, recordWrites_foldl]
    rfl

theorem routeWrites_foldl (rtc : Rtc) (header : Header) (message : CString) (timestamp : UInt32) :
    (routeWrites rtc header message timestamp).foldl Write.apply rtc =
      rtc.route header message timestamp := by
  rw [routeWrites, Rtc.route]
  by_cases window : timestamp < logBootWindowMs
  · cases stored : appendBoot rtc.region.boot rtc.data header message.bytes with
    | none => simp [circularWrites_foldl]
    | some result => simp [window, bootWrites_foldl stored]
  · simp [window, circularWrites_foldl]

/-- Without a reset, the stores of `sinkWrites` are what `sink` does to RTC memory. -/
theorem sinkWrites_foldl (store : Store) (level : LogLevel) (message : CString)
    (timestamp : UInt32) :
    (sinkWrites store level message timestamp).foldl Write.apply store.rtc =
      (sink store level (some message) timestamp).rtc := by
  rw [sinkWrites, sink]
  dsimp only
  split
  · rw [List.foldl_append, routeWrites_foldl]
    obtain ⟨boot, roll, data, dropped, routed⟩ :=
      store.rtc.route_frame (lineHeader level message timestamp) message timestamp
    rw [routed]
    rfl
  · rfl

end ModbusBridge.LogStore
