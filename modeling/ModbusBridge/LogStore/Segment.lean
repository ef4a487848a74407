import ModbusBridge.Library.Memory
import ModbusBridge.Text

/-!
# Segments of the log store

The data area in RTC memory is split into a linear boot segment and a circular rolling segment.
This file models the record headers, the eviction loop and the two append functions. Ring fields
and lengths are 16-bit in the source; they are naturals here, and every cast is written out.
-/

namespace ModbusBridge.LogStore

open Memory

/-- The cast `(uint16_t)n`. -/
def u16 (n : Nat) : Nat := n % 65536

/-- The cast `(uint16_t)(a - b)` of a difference of 16-bit operands. -/
def sub16 (a b : Nat) : Nat := (a + 65536 - b) % 65536

/-- `LOG_STORE_DATA_BYTES`. -/
def logStoreDataBytes : Nat := 7168

/-- `BOOT_CAP`, which is `LOG_STORE_BOOT_BYTES`. -/
def bootCap : Nat := 5120

/-- `ROLL_CAP`. -/
def rollCap : Nat := logStoreDataBytes - bootCap

/-- `HDR`: the bytes of a record header. -/
def hdr : Nat := 8

/-- `LOG_STORE_MAX_MSG`: the longest message body kept in a record. -/
def logStoreMaxMsg : Nat := 160

/-- `FLAG_BOOT`: the synthetic boot marker. -/
def flagBoot : UInt8 := 0x01

/-- `FLAG_TRUNCATED`: the message was longer than `LOG_STORE_MAX_MSG`. -/
def flagTruncated : UInt8 := 0x02

/-- `FLAG_WRAP`: tail filler; a reader continues at 0. -/
def flagWrap : UInt8 := 0x04

/-- `Ring`: the bookkeeping of one segment. The last three fields are relative to `base`. -/
structure Ring where
  base : Nat
  cap : Nat
  writePos : Nat
  readStart : Nat
  used : Nat
  deriving DecidableEq, Repr

/-- `roundUp4`. -/
def roundUp4 (n : Nat) : Nat := u16 ((n + 3) / 4 * 4)

/-- The fields that `readHdr` reads. -/
structure Header where
  len : Nat
  level : UInt8
  flags : UInt8
  ts : UInt32
  deriving DecidableEq, Repr

/-- The eight bytes of a header, least significant byte first. -/
def headerBytes (header : Header) : Bytes :=
  [UInt8.ofNat header.len, UInt8.ofNat (header.len / 256), header.level, header.flags,
    UInt8.ofNat header.ts.toNat, UInt8.ofNat (header.ts.toNat / 256),
    UInt8.ofNat (header.ts.toNat / 65536), UInt8.ofNat (header.ts.toNat / 16777216)]

/-- `readHdr`. -/
def readHdr (data : Nat → UInt8) (off : Nat) : Header where
  len := (data off).toNat + 256 * (data (off + 1)).toNat
  level := data (off + 2)
  flags := data (off + 3)
  ts := UInt32.ofNat ((data (off + 4)).toNat + 256 * (data (off + 5)).toNat +
    65536 * (data (off + 6)).toNat + 16777216 * (data (off + 7)).toNat)

/-- `writeHdr`. -/
def writeHdr (data : Nat → UInt8) (off : Nat) (header : Header) : Nat → UInt8 :=
  write data off (headerBytes header)

/-- `recordSizeAt`: size of the record that starts at `pos`. -/
def recordSizeAt (data : Nat → UInt8) (r : Ring) (pos : Nat) : Nat :=
  -- too little tail left for a header
  if pos + hdr > r.cap then sub16 r.cap pos
  else
    let header := readHdr data (u16 (r.base + pos))
    if header.flags &&& flagWrap ≠ 0 then sub16 r.cap pos
    else u16 (hdr + roundUp4 header.len)

/-- `resetRing`. -/
def resetRing (base cap : Nat) : Ring where
  base := base
  cap := cap
  writePos := 0
  readStart := 0
  used := 0

/-- The loop of `evict`. Every turn that goes on takes at least one byte from `used`. -/
def evictLoop (data : Nat → UInt8) (need : Nat) : Nat → Ring → UInt32 → Ring × UInt32
  | 0, r, dropped => (r, dropped)
  | fuel + 1, r, dropped =>
      if r.used + need > r.cap ∧ r.used > 0 then
        let sz := recordSizeAt data r r.readStart
        if sz = 0 ∨ sz > r.used then (resetRing r.base r.cap, dropped)
        else
          evictLoop data need fuel
            { r with readStart := u16 ((r.readStart + sz) % r.cap), used := sub16 r.used sz }
            (dropped + 1)
      else (r, dropped)

/-- `evict`: drop whole records from the front until `need` fits. -/
def evict (data : Nat → UInt8) (r : Ring) (need : Nat) (dropped : UInt32) : Ring × UInt32 :=
  evictLoop data need r.used r dropped

/-- The bytes of a record with its zero padding: both append functions write these. -/
def writeRecord (data : Nat → UInt8) (off : Nat) (header : Header) (msg : Bytes) (need : Nat) :
    Nat → UInt8 :=
  let data := writeHdr data off header
  let data := write data (off + hdr) (msg.take header.len)
  write data (off + hdr + header.len) (List.replicate (need - (hdr + header.len)) 0)

/-- The part of `appendCircular` before its second eviction: when the tail cannot hold the
record, the remainder becomes filler and the ring restarts at 0. -/
def fillTail (r : Ring) (data : Nat → UInt8) (dropped : UInt32) (need : Nat) :
    Ring × (Nat → UInt8) × UInt32 :=
  let tailGap := sub16 r.cap r.writePos
  if tailGap < need then
    let (r, dropped) := evict data r tailGap dropped
    let data :=
      if tailGap ≥ hdr then
        writeHdr data (u16 (r.base + r.writePos))
          { len := 0, level := 0, flags := flagWrap, ts := 0 }
      else data
    ({ r with used := u16 (r.used + tailGap), writePos := 0 }, data, dropped)
  else (r, data, dropped)

/-- `appendCircular`: append into a circular, evicting ring. -/
def appendCircular (r : Ring) (data : Nat → UInt8) (header : Header) (msg : Bytes)
    (dropped : UInt32) : Ring × (Nat → UInt8) × UInt32 :=
  let need := u16 (hdr + roundUp4 header.len)
  let (r, data, dropped) := fillTail r data dropped need
  let (r, dropped) := evict data r need dropped
  let off := u16 (r.base + r.writePos)
  let data := writeRecord data off header msg need
  ({ r with writePos := u16 ((r.writePos + need) % r.cap), used := u16 (r.used + need) },
    data, dropped)

/-- `appendBoot`: append into the linear, fill-once boot segment. The result is `none` when the
segment is full. -/
def appendBoot (r : Ring) (data : Nat → UInt8) (header : Header) (msg : Bytes) :
    Option (Ring × (Nat → UInt8)) :=
  let need := u16 (hdr + roundUp4 header.len)
  if r.writePos + need > r.cap then none
  else
    let off := u16 (r.base + r.writePos)
    let data := writeRecord data off header msg need
    let writePos := u16 (r.writePos + need)
    some ({ r with writePos := writePos, used := writePos }, data)

end ModbusBridge.LogStore
