import ModbusBridge.Library.BlockRing
import ModbusBridge.LogStore.Store

/-!
# Slots of a segment

A segment is a chain of slots. A slot holds a record, or it is the filler that closes the tail of
the rolling segment. The reader's view of a slot (`recordSizeAt`, `fetchStep`) is computed here
from what the slot says.
-/

namespace ModbusBridge.LogStore

open Memory BlockRing

/-! ## Casts -/

theorem u16_of_lt {n : Nat} (bound : n < 65536) : u16 n = n := Nat.mod_eq_of_lt bound

theorem sub16_of_le {a b : Nat} (order : b ≤ a) (bound : a < 65536) : sub16 a b = a - b := by
  rw [sub16]
  omega

theorem roundUp4_eq {n : Nat} (bound : n ≤ logStoreMaxMsg) : roundUp4 n = (n + 3) / 4 * 4 := by
  simp only [logStoreMaxMsg] at bound
  exact u16_of_lt (by omega)

/-! ## Records -/

/-- A stored record. Its body is printable text that fits, and it is no filler. -/
structure Record where
  level : UInt8
  flags : UInt8
  ts : UInt32
  /-- The retained part of the message. -/
  body : Bytes
  short : body.length ≤ logStoreMaxMsg
  noNul : ∀ byte ∈ body, byte ≠ 0
  noFiller : flags &&& flagWrap = 0
  deriving DecidableEq

namespace Record

/-- The header that describes the record. -/
def header (record : Record) : Header where
  len := record.body.length
  level := record.level
  flags := record.flags
  ts := record.ts

/-- Bytes that the record takes in a segment. -/
def size (record : Record) : Nat := hdr + (record.body.length + 3) / 4 * 4

/-- The bytes of the record: header, body and zero padding. -/
def encode (record : Record) : Bytes :=
  headerBytes record.header ++ record.body ++
    List.replicate (record.size - (hdr + record.body.length)) 0

/-- The name that a download owes for a level. -/
def levelShown (level : UInt8) : Bytes :=
  [ascii "ERROR", ascii "WARN", ascii "INFO", ascii "DEBUG"].getD level.toNat (ascii "UNKNOWN")

theorem levelName_eq (level : UInt8) : levelName level = levelShown level := by
  rw [levelName]
  split_ifs with error warn info debug
  · rw [error]; rfl
  · rw [warn]; rfl
  · rw [info]; rfl
  · rw [debug]; rfl
  · have beyond : 4 ≤ level.toNat := by
      simp only [← UInt8.toNat_inj] at error warn info debug
      change ¬ level.toNat = 0 at error
      change ¬ level.toNat = 1 at warn
      change ¬ level.toNat = 2 at info
      change ¬ level.toNat = 3 at debug
      omega
    rw [levelShown, List.getD_eq_getElem?_getD, List.getElem?_eq_none beyond, Option.getD_none]

theorem levelShown_length_le (level : UInt8) : (levelShown level).length ≤ 7 := by
  rw [← levelName_eq, levelName]
  split_ifs <;> decide

/-- The line that a download owes for the record: `[ts][LEVEL] body` and a line feed. -/
def line (record : Record) : Bytes :=
  ascii "[" ++ decimal record.ts.toNat ++ ascii "][" ++ levelShown record.level ++ ascii "] " ++
    record.body ++ [10]

theorem render_eq_line (record : Record) :
    render record.ts record.level record.body = record.line := by
  rw [render, untilNul_eq_self record.noNul, levelName_eq, line]

theorem size_bounds (record : Record) :
    hdr + record.body.length ≤ record.size ∧ hdr ≤ record.size ∧ record.size ≤ 168 := by
  have short := record.short
  simp only [size, hdr, logStoreMaxMsg] at *
  omega

theorem need_eq (record : Record) : u16 (hdr + roundUp4 record.header.len) = record.size := by
  have bounds := record.size_bounds
  have rounded : roundUp4 record.header.len = (record.body.length + 3) / 4 * 4 :=
    roundUp4_eq record.short
  rw [rounded]
  exact u16_of_lt (by have := bounds.2.2; simp only [size] at this; omega)

@[simp] theorem encode_length (record : Record) : record.encode.length = record.size := by
  have bounds := record.size_bounds
  simp [encode, headerBytes, hdr] at *
  omega

end Record

/-- A memory that spells a header reads back as that header. -/
theorem readHdr_of_holds {data : Nat → UInt8} {off : Nat} {header : Header}
    (bound : header.len < 65536) (holds : Holds data off (headerBytes header)) :
    readHdr data off = header := by
  obtain ⟨len, level, flags, ts⟩ := header
  simp only [headerBytes, holds_cons, Nat.add_assoc, Nat.reduceAdd] at holds
  obtain ⟨len₀, len₁, levelCell, flagsCell, ts₀, ts₁, ts₂, ts₃, -⟩ := holds
  have tsBound := ts.toNat_lt
  simp only [readHdr, len₀, len₁, levelCell, flagsCell, ts₀, ts₁, ts₂, ts₃, UInt8.toNat_ofNat',
    Header.mk.injEq, true_and]
  refine ⟨by simp only at bound; omega, ?_⟩
  rw [show ts.toNat % 2 ^ 8 + 256 * (ts.toNat / 256 % 2 ^ 8) +
      65536 * (ts.toNat / 65536 % 2 ^ 8) + 16777216 * (ts.toNat / 16777216 % 2 ^ 8) =
      ts.toNat by omega]
  exact UInt32.ofNat_toNat

/-- The three writes of `writeRecord` spell the record and touch nothing else. -/
theorem writeRecord_eq (data : Nat → UInt8) (off : Nat) (record : Record) (msg : Bytes)
    (body : msg.take record.body.length = record.body) :
    writeRecord data off record.header msg record.size = write data off record.encode := by
  have headerLength : (headerBytes record.header).length = hdr := rfl
  rw [writeRecord, writeHdr, Record.encode, write_append, write_append]
  simp only [Record.header] at *
  rw [body, headerLength, List.length_append, headerLength, Nat.add_assoc]

/-! ## Slots -/

/-- One slot of a segment. -/
inductive Slot
  | record (entry : Record)
  /-- Tail filler of the given size. -/
  | filler (bytes : Nat)

namespace Slot

/-- Bytes that the slot takes. -/
def size : Slot → Nat
  | .record entry => entry.size
  | .filler bytes => bytes

/-- The slot lies at a position of a segment of `cap` bytes. Filler reaches to the end of the
segment, and filler with room for a header carries the wrap flag. -/
def Held (cap : Nat) (mem : Nat → UInt8) (pos : Nat) : Slot → Prop
  | .record entry => pos + entry.size ≤ cap ∧ Holds mem pos entry.encode
  | .filler bytes =>
      pos + bytes = cap ∧ 0 < bytes ∧ (hdr ≤ bytes → mem (pos + 3) &&& flagWrap ≠ 0)

/-- The records among the slots. -/
def records (slots : List Slot) : List Record :=
  slots.filterMap fun
    | .record entry => some entry
    | .filler _ => none

@[simp] theorem records_nil : records [] = [] := rfl

@[simp] theorem records_record (entry : Record) (slots : List Slot) :
    records (.record entry :: slots) = entry :: records slots := rfl

@[simp] theorem records_filler (bytes : Nat) (slots : List Slot) :
    records (.filler bytes :: slots) = records slots := rfl

@[simp] theorem records_append (left right : List Slot) :
    records (left ++ right) = records left ++ records right := by
  simp [records, List.filterMap_append]

@[simp] theorem records_map (stored : List Record) : records (stored.map .record) = stored := by
  induction stored with
  | nil => rfl
  | cons head tail induction => simp [induction]

end Slot

/-- The slots of a segment of `cap` bytes as blocks of a ring. -/
def slotLayout (cap : Nat) : Layout UInt8 Slot where
  cap := cap
  size := Slot.size
  Held := Slot.Held cap
  size_pos := by
    rintro mem start (entry | bytes) held
    · have := entry.size_bounds
      simp only [Slot.size, hdr] at *
      omega
    · exact held.2.1
  fits := by
    rintro mem start (entry | bytes) held
    · exact held.1
    · exact held.1.le
  congr := by
    rintro mem mem' start (entry | bytes) held agree
    · refine ⟨held.1, held.2.congr fun i after before => agree i after ?_⟩
      simpa [Slot.size] using before
    · refine ⟨held.1, held.2.1, fun room => ?_⟩
      rw [agree (start + 3) (by omega) (by simp only [Slot.size, hdr] at *; omega)]
      exact held.2.2 room

@[simp] theorem slotLayout_cap (cap : Nat) : (slotLayout cap).cap = cap := rfl

@[simp] theorem slotLayout_size (cap : Nat) : (slotLayout cap).size = Slot.size := rfl

/-- Bytes that a list of slots takes. -/
def slotBytes (slots : List Slot) : Nat := (slots.map Slot.size).sum

@[simp] theorem slotLayout_total (cap : Nat) (slots : List Slot) :
    (slotLayout cap).total slots = slotBytes slots := rfl

@[simp] theorem slotBytes_nil : slotBytes [] = 0 := rfl

@[simp] theorem slotBytes_cons (slot : Slot) (slots : List Slot) :
    slotBytes (slot :: slots) = slot.size + slotBytes slots := by
  simp [slotBytes]

@[simp] theorem slotBytes_append (left right : List Slot) :
    slotBytes (left ++ right) = slotBytes left + slotBytes right := by
  simp [slotBytes]

/-! ## Reading a slot -/

/-- The bytes of a segment, relative to its base. -/
def cells (data : Nat → UInt8) (r : Ring) : Nat → UInt8 := fun i => data (r.base + i)

/-- The geometry that `begin` establishes for both segments: no 16-bit cast loses anything. -/
def Ring.Addressable (r : Ring) : Prop := hdr ≤ r.cap ∧ r.base + r.cap ≤ logStoreDataBytes

theorem holds_cells {data : Nat → UInt8} {r : Ring} {pos : Nat} {bytes : Bytes} :
    Holds (cells data r) pos bytes ↔ Holds data (r.base + pos) bytes := by
  simp [Holds, cells, Nat.add_assoc]

theorem readHdr_of_record {data : Nat → UInt8} {r : Ring} {pos : Nat} {entry : Record}
    (addressable : r.Addressable) (held : Slot.Held r.cap (cells data r) pos (.record entry)) :
    readHdr data (u16 (r.base + pos)) = entry.header := by
  have bounds := entry.size_bounds
  have short := entry.short
  obtain ⟨reach, spelled⟩ : pos + entry.size ≤ r.cap ∧ _ := held
  simp only [Ring.Addressable, logStoreDataBytes, logStoreMaxMsg] at *
  rw [u16_of_lt (by omega)]
  apply readHdr_of_holds (by simp only [Record.header]; omega)
  have holds := holds_cells.mp spelled
  rw [Record.encode, List.append_assoc, holds_append] at holds
  exact holds.1

theorem flags_of_filler {data : Nat → UInt8} {r : Ring} {pos bytes : Nat}
    (addressable : r.Addressable) (held : Slot.Held r.cap (cells data r) pos (.filler bytes))
    (room : hdr ≤ bytes) :
    (readHdr data (u16 (r.base + pos))).flags &&& flagWrap ≠ 0 := by
  obtain ⟨reach, -, flag⟩ : pos + bytes = r.cap ∧ 0 < bytes ∧ _ := held
  have flag := flag room
  simp only [Ring.Addressable, logStoreDataBytes] at addressable
  rw [u16_of_lt (by omega)]
  simpa [cells, readHdr, Nat.add_assoc] using flag

/-- `recordSizeAt` measures the slot that it stands on. -/
theorem recordSizeAt_eq {data : Nat → UInt8} {r : Ring} {pos : Nat} {slot : Slot}
    (addressable : r.Addressable) (held : slot.Held r.cap (cells data r) pos) :
    recordSizeAt data r pos = slot.size := by
  have geometry := addressable
  simp only [Ring.Addressable, logStoreDataBytes, hdr] at geometry
  cases slot with
  | record entry =>
      have bounds := entry.size_bounds
      have reach : pos + entry.size ≤ r.cap := held.1
      rw [recordSizeAt, if_neg (by omega), readHdr_of_record addressable held, if_neg]
      · exact entry.need_eq
      · simpa [Record.header] using entry.noFiller
  | filler bytes =>
      have reach : pos + bytes = r.cap := held.1
      have gap : sub16 r.cap pos = bytes := by
        rw [sub16_of_le (by omega) (by omega)]
        omega
      rw [recordSizeAt, gap]
      split
      · rfl
      · rw [if_pos (flags_of_filler addressable held (by simp only [hdr] at *; omega))]
        rfl

end ModbusBridge.LogStore
