import Mathlib.Data.List.Induction
import ModbusBridge.Library.Greedy
import ModbusBridge.LogStore.Ranges

/-!
# The beginning of a boot

The boot segment is filled once and never evicts. It takes each record of the boot window that still
fits, so a short record can follow a longer one that has overflowed into the rolling segment.
-/

namespace ModbusBridge.LogStore

open Memory BlockRing ESPLogger Greedy

/-! ## What the boot segment holds -/

theorem Record.eq_of_header {left right : Record} (header : left.header = right.header)
    (body : left.body = right.body) : left = right := by
  obtain ⟨level, flags, ts, text⟩ := left
  obtain ⟨level', flags', ts', text'⟩ := right
  obtain ⟨-, rfl, rfl, rfl⟩ := Header.mk.inj header
  obtain rfl := body
  rfl

/-- A record is read back from the bytes that it takes. -/
theorem Record.eq_of_held {data : Nat → UInt8} {r : Ring} {pos : Nat} {left right : Record}
    (addressable : r.Addressable) (first : Slot.Held r.cap (cells data r) pos (.record left))
    (second : Slot.Held r.cap (cells data r) pos (.record right)) : left = right := by
  have header : left.header = right.header :=
    (readHdr_of_record addressable first).symm.trans (readHdr_of_record addressable second)
  have length : left.body.length = right.body.length := (Header.mk.inj header).1
  have spelled (record : Record) (held : Slot.Held r.cap (cells data r) pos (.record record)) :
      slice data (r.base + pos + hdr) record.body.length = record.body := by
    have bytes := holds_cells.mp held.2
    rw [Record.encode, List.append_assoc, holds_append, holds_append] at bytes
    exact bytes.2.1.slice_eq
  refine Record.eq_of_header header ?_
  rw [← spelled left first, ← spelled right second, length]

theorem eq_nil_of_slotBytes {records : List Record}
    (none : slotBytes (records.map .record) = 0) : records = [] := by
  cases records with
  | nil => rfl
  | cons record records =>
      have positive := record.size_bounds.2.1
      simp only [List.map_cons, slotBytes_cons, Slot.size, hdr] at none positive
      omega

theorem chain_unique {data : Nat → UInt8} {r : Ring} (addressable : r.Addressable)
    {left right : List Record} {start stop stop' : Nat}
    (first : Chain (slotLayout r.cap) (cells data r) start (left.map .record) stop)
    (second : Chain (slotLayout r.cap) (cells data r) start (right.map .record) stop')
    (same : slotBytes (left.map .record) = slotBytes (right.map .record)) : left = right := by
  induction left generalizing right start with
  | nil => exact (eq_nil_of_slotBytes same.symm).symm
  | cons record records induction =>
      cases right with
      | nil => exact absurd (eq_nil_of_slotBytes same) (List.cons_ne_nil _ _)
      | cons record' records' =>
          cases first with
          | cons held rest =>
              cases second with
              | cons held' rest' =>
                  obtain rfl := Record.eq_of_held addressable held held'
                  simp only [List.map_cons, slotBytes_cons, Nat.add_left_cancel_iff] at same
                  rw [induction rest rest' same]

/-- The boot segment determines the records that it holds. -/
theorem BootHeld.unique {data : Nat → UInt8} {r : Ring} {left right : List Record}
    (first : BootHeld data r left) (second : BootHeld data r right) : left = right := by
  have same := first.writePos_eq.symm.trans second.writePos_eq
  have chain := first.chain
  have chain' := second.chain
  rw [← first.cap_eq] at chain chain'
  exact chain_unique first.addressable chain chain' same

/-! ## Filling it -/

section

variable (build : Build) (reason : UInt32) (rtc : Rtc)

/-- The store after `begin` and some calls of `sink`. -/
def logged (calls : List SinkCall) : Store :=
  calls.foldl SinkCall.onStore (begin build reason rtc)

/-- The marker as the record that the boot segment starts with. -/
def markerRecord : Record := Record.ofText .info (rtc.marker build reason) 0

/-- The room that the marker leaves in the boot segment. -/
def bootRoom : Nat := bootCap - (markerRecord build reason rtc).size

/-- The records of the boot window that some calls offer to the boot segment. -/
def offers (calls : List SinkCall) : List Record := calls.filterMap SinkCall.offer

/-- The call has a record of the boot window, which does not go to the boot segment. -/
def SinkCall.Overflows (store : Store) (call : SinkCall) : Prop :=
  call.offer.isSome = true ∧ ¬ call.Placed store

/-- The boot segment holds a prefix of the records of the boot window, behind the marker. After one
of them has overflowed it takes no more. -/
structure GapFree (calls : List SinkCall) : Prop where
  initial : ∃ stored, stored <+: offers calls ∧
    BootHeld (logged build reason rtc calls).rtc.data
      (logged build reason rtc calls).rtc.region.boot (markerRecord build reason rtc :: stored)
  closed : ∀ before call between later after,
    calls = before ++ call :: (between ++ later :: after) →
      call.Overflows (logged build reason rtc before) →
        ¬ later.Placed (logged build reason rtc (before ++ call :: between))

variable {build reason rtc} {calls : List SinkCall}

@[simp] theorem offers_nil : offers [] = [] := rfl

theorem offers_append (first second : List SinkCall) :
    offers (first ++ second) = offers first ++ offers second :=
  List.filterMap_append

theorem offers_cons (call : SinkCall) (calls : List SinkCall) :
    offers (call :: calls) = call.offer.toList ++ offers calls := by
  cases offered : call.offer with
  | none => simp [offers, offered]
  | some record => simp [offers, offered]

theorem logged_append (first second : List SinkCall) :
    logged build reason rtc (first ++ second) =
      second.foldl SinkCall.onStore (logged build reason rtc first) :=
  List.foldl_append

/-- The room that a record needs, told from the bytes in use and from the room left. -/
theorem room_iff (records : List Record) (record : Record) :
    Record.bytes (markerRecord build reason rtc ::
        fill Record.size (bootRoom build reason rtc) records) + record.size ≤ bootCap ↔
      record.size ≤ left Record.size (bootRoom build reason rtc) records := by
  have total := @total_fill _ Record.size (bootRoom build reason rtc) records
  have marker := (markerRecord build reason rtc).size_bounds.2.2
  have capacity : bootCap = 5120 := rfl
  simp only [Record.bytes, List.map_cons, List.sum_cons, bootRoom] at total ⊢
  omega

/-- Behind the marker, the boot segment holds what a greedy container takes. -/
theorem logged_intact (calls : List SinkCall) :
    Intact (logged build reason rtc calls).rtc (markerRecord build reason rtc ::
      fill Record.size (bootRoom build reason rtc) (offers calls)) := by
  induction calls using List.reverseRecOn with
  | nil => exact begin_intact build reason rtc
  | append_singleton calls call induction =>
      have after := induction.onStore call
      rw [logged_append, offers_append, offers_cons]
      cases offered : call.offer with
      | none => simpa [offered] using after
      | some record =>
          rw [fill_append]
          rw [offered] at after
          by_cases room : record.size ≤
              left Record.size (bootRoom build reason rtc) (offers calls)
          · simpa [room_iff, room, fill] using after
          · simpa [room_iff, room, fill] using after

theorem placed_iff (calls : List SinkCall) (call : SinkCall) :
    call.Placed (logged build reason rtc calls) ↔ ∃ record ∈ call.offer,
      record.size ≤ left Record.size (bootRoom build reason rtc) (offers calls) := by
  rw [(logged_intact calls).placed_iff call]
  simp only [room_iff]

end

/-- The boot segment holds a gap-free beginning of the boot exactly if, after the first record that
exceeds the room left, every record exceeds it. -/
theorem gapFree_iff (build : Build) (reason : UInt32) (rtc : Rtc) (calls : List SinkCall) :
    GapFree build reason rtc calls ↔
      FillsOnce Record.size (bootRoom build reason rtc) (offers calls) := by
  constructor
  · rintro ⟨⟨stored, initial, held⟩, -⟩
    obtain ⟨-, rfl⟩ := List.cons.inj (held.unique (logged_intact calls).held)
    exact fill_isPrefix_iff.mp initial
  · intro once
    refine ⟨⟨_, fill_isPrefix_iff.mpr once, (logged_intact calls).held⟩, ?_⟩
    rintro before call between later after rfl ⟨offered, missed⟩ placed
    obtain ⟨record, here⟩ := Option.isSome_iff_exists.mp offered
    obtain ⟨record', here', fits⟩ := (placed_iff _ later).mp placed
    have tooLarge : left Record.size (bootRoom build reason rtc) (offers before) < record.size :=
      Nat.lt_of_not_le fun fits => missed ((placed_iff before call).mpr ⟨record, here, fits⟩)
    simp only [offers_append, offers_cons, here, Option.mem_def.mp here', Option.toList_some,
      List.singleton_append] at once fits
    exact absurd fits (Nat.not_le_of_lt (once.closed tooLarge))

/-- Thirty lines of 160 letters fill the boot segment but for a few bytes. One more overflows, and
a short line is stored behind it. -/
theorem short_line_stored :
    let long : SinkCall := ⟨.info, some (Line.xs 160 (by decide)).text, 5⟩
    let short : SinkCall := ⟨.info, some (Line.xs 4 (by decide)).text, 5⟩
    ¬ GapFree .unknown 1 .zero (List.replicate 30 long ++ [long, short]) := by
  intro long short gapFree
  have overflows : long.offer.isSome = true ∧
      ¬ long.Placed (logged .unknown 1 .zero (List.replicate 30 long)) :=
    ⟨by decide, by decide +kernel⟩
  exact gapFree.closed _ long [] short [] rfl overflows (by decide +kernel)

end ModbusBridge.LogStore
