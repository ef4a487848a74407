import ModbusBridge.LogStore.Journal

/-!
# The log store refines the journal

`Stored` ties RTC memory to the records and slots that it holds, and `Refines` ties a store to a
journal. Every event keeps `Refines`, so a download returns the journal's boot list and a suffix of
its rolling list.
-/

namespace ModbusBridge.LogStore

open Memory BlockRing ESPLogger

/-! ## Records and their headers -/

theorem Record.take_ofLine (level : LogLevel) (line : Line) (ts : UInt32) :
    line.text.bytes.take (ofLine level line ts).body.length = (ofLine level line ts).body := by
  simp only [ofLine, List.length_take]
  rcases Nat.le_total logStoreMaxMsg line.text.bytes.length with long | short
  · rw [Nat.min_eq_left long]
  · rw [Nat.min_eq_right short, List.take_length, List.take_of_length_le short]

theorem Record.take_ofMarker (marker : Line) :
    marker.text.bytes.take (ofMarker marker).body.length = (ofMarker marker).body :=
  take_ofLine .info marker 0

/-- `sink` describes the record that it keeps. -/
theorem lineHeader_eq (level : LogLevel) (line : Line) (ts : UInt32) :
    lineHeader level line.text ts = (Record.ofLine level line ts).header := by
  have formatted := line.formatted
  have length : u16 line.text.strlen = line.text.strlen := u16_of_lt (by omega)
  rw [lineHeader, length]
  simp only [Record.header, Record.ofLine, List.length_take]
  split
  · rw [Nat.min_eq_left (by simp only [CString.strlen] at *; omega)]
  · rw [Nat.min_eq_right (by simp only [CString.strlen] at *; omega), CString.strlen]

/-- The marker is never truncated. -/
theorem markerHeader_eq (build : Build) (bootCount reason : UInt32) :
    { len := u16 (bootMarker build bootCount reason).strlen, level := LogLevel.info.code,
      flags := flagBoot, ts := 0 } =
      (Record.ofMarker (markerLine build bootCount reason)).header := by
  have short := bootMarker_strlen_lt build bootCount reason
  have small : logStoreMaxMsg = 160 := rfl
  rw [u16_of_lt (by omega)]
  simp only [Record.header, Record.ofMarker, Record.ofLine, markerLine, List.length_take]
  rw [Nat.min_eq_right (by simp only [CString.strlen] at short; omega), CString.strlen]

theorem bytes_eq (records : List Record) :
    Record.bytes records = slotBytes (records.map .record) := by
  simp [Record.bytes, slotBytes, Function.comp_def, Slot.size]

/-! ## Routing -/

section

variable {rtc : Rtc} {boot : List Record} {record : Record} {text : CString} {ts : UInt32}

/-- A record of the boot window that fits goes to the boot segment. -/
theorem BootHeld.route_boot (held : BootHeld rtc.data rtc.region.boot boot)
    (body : text.bytes.take record.body.length = record.body)
    (window : ts < logBootWindowMs) (room : Record.bytes boot + record.size ≤ bootCap) :
    ∃ ring data,
      rtc.route record.header text ts = { region := { rtc.region with boot := ring }, data } ∧
        BootHeld data ring (boot ++ [record]) ∧ ∀ i, bootCap ≤ i → data i = rtc.data i := by
  obtain ⟨ring, data, step, longer, rest⟩ := appendBoot_room held body (bytes_eq boot ▸ room)
  refine ⟨ring, data, ?_, longer, rest⟩
  simp only [Rtc.route, if_pos window, step]

/-- Every other record goes to the rolling segment. -/
theorem BootHeld.route_rolling (held : BootHeld rtc.data rtc.region.boot boot)
    (late : ¬ (ts < logBootWindowMs ∧ Record.bytes boot + record.size ≤ bootCap)) :
    rtc.route record.header text ts = rtc.appendRolling record.header text := by
  rw [Rtc.route]
  by_cases window : ts < logBootWindowMs
  · have full : bootCap < slotBytes (boot.map .record) + record.size := by
      rw [← bytes_eq]
      exact Nat.lt_of_not_le fun room => late ⟨window, room⟩
    simp only [if_pos window, appendBoot_full held full]
  · simp only [if_neg window]

end

/-! ## What RTC memory holds -/

/-- RTC memory holds the given records in the boot segment and the given slots in the rolling
one. -/
structure Stored (rtc : Rtc) (boot : List Record) (slots : List Slot) : Prop where
  magic_eq : rtc.region.magic = lsMagic
  version_eq : rtc.region.version = lsVersion
  held : BootHeld rtc.data rtc.region.boot boot
  queued : Queued rtc.data rtc.region.roll slots

namespace Stored

variable {rtc : Rtc} {boot : List Record} {slots : List Slot} {record : Record} {text : CString}

/-- `begin` accepts such a region. -/
theorem valid (stored : Stored rtc boot slots) : rtc.region.valid = true := by
  have bootUsed := stored.held.used_eq
  have bootEnd := stored.held.writePos_le
  have rollEnd := stored.queued.writePos_lt
  have rollStart := stored.queued.start_lt
  have rollUsed := stored.queued.used_le
  simp only [Region.valid, stored.magic_eq, stored.version_eq, stored.held.base_eq,
    stored.held.cap_eq, stored.queued.base_eq, stored.queued.cap_eq, bootUsed]
  simp [bootEnd, rollEnd, rollStart, rollUsed]

theorem bumpSeq (stored : Stored rtc boot slots) : Stored rtc.bumpSeq boot slots :=
  ⟨stored.magic_eq, stored.version_eq, stored.held, stored.queued⟩

/-- A rolling segment in the place of another one. -/
theorem setRolling (stored : Stored rtc boot slots) {r : Ring} {data : Nat → UInt8}
    {others : List Slot} (kept : ∀ i, i < bootCap → data i = rtc.data i)
    (queued : Queued data r others) (dropped : UInt32) :
    Stored (rtc.setRolling r data dropped) boot others :=
  ⟨stored.magic_eq, stored.version_eq, stored.held.congr kept, queued⟩

/-- A record that goes to the rolling segment becomes its newest slot. -/
theorem appendRolling (stored : Stored rtc boot slots)
    (body : text.bytes.take record.body.length = record.body) :
    ∃ gone kept, slots ++ tailFiller rtc.region.roll record.size = gone ++ kept ∧
      Stored (rtc.appendRolling record.header text) boot (kept ++ [.record record]) ∧
      (rtc.appendRolling record.header text).region.roll.writePos =
        (rtc.region.roll.writePos +
          (slotBytes (tailFiller rtc.region.roll record.size) + record.size)) % rollCap := by
  have appended := appendCircular_appended stored.queued body rtc.region.dropped
  rw [Rtc.appendRolling]
  generalize appendCircular rtc.region.roll rtc.data record.header text.bytes rtc.region.dropped =
    result at appended ⊢
  obtain ⟨roll, data, dropped⟩ := result
  obtain ⟨gone, kept, split, queued⟩ := appended.appended
  have after := stored.setRolling appended.boot_eq queued dropped
  exact ⟨gone, kept, split, after, appended.writePos_eq⟩

/-- A record of the boot window that fits leaves the rolling segment alone. -/
theorem route_boot {ts : UInt32} (stored : Stored rtc boot slots)
    (body : text.bytes.take record.body.length = record.body)
    (window : ts < logBootWindowMs) (room : Record.bytes boot + record.size ≤ bootCap) :
    Stored (rtc.route record.header text ts) (boot ++ [record]) slots ∧
      (rtc.route record.header text ts).region.roll = rtc.region.roll := by
  have capacity : bootCap + rollCap ≤ 7168 := by decide
  obtain ⟨ring, data, routed, held, rest⟩ := stored.held.route_boot body window room
  rw [routed]
  refine ⟨⟨stored.magic_eq, stored.version_eq, held, ?_⟩, rfl⟩
  refine stored.queued.write_free 0 ?_ fun i _ _ => rest _ (by omega)
  simpa [← stored.queued.used_eq] using stored.queued.used_le

end Stored

/-! ## The refinement -/

/-- The store holds the boot list of the journal and a nonempty suffix of its rolling list. -/
structure Refines (store : Store) (journal : Journal) : Prop where
  stored : ∃ gone slots, journal.rolling = gone ++ Slot.records slots ∧ Slot.records slots ≠ [] ∧
    Stored store.rtc journal.boot slots
  bootCount_eq : store.rtc.region.bootCount = journal.bootCount
  capture_eq : store.capture = journal.capture

/-- RTC memory from which `begin` goes on with the rolling list of the journal. -/
structure Restarts (rtc : Rtc) (journal : Journal) : Prop where
  magic_eq : rtc.region.recover.magic = lsMagic
  version_eq : rtc.region.recover.version = lsVersion
  bootCount_eq : rtc.region.recover.bootCount = journal.bootCount + 1
  rolling : ∃ gone slots, journal.rolling = gone ++ Slot.records slots ∧
    Queued rtc.data rtc.region.recover.roll slots

theorem restarts_blank {rtc : Rtc} (invalid : rtc.region.valid = false) :
    Restarts rtc .blank := by
  have wiped : rtc.region.recover = { rtc.region with
      magic := lsMagic, version := lsVersion, pad := 0, seq := 0, dropped := 0, bootCount := 1
      roll := resetRing bootCap rollCap } := by
    simp [Region.recover, invalid]
  refine ⟨?_, ?_, ?_, [], [], rfl, ?_⟩ <;> rw [wiped]
  · rfl
  · exact Queued.empty rtc.data

theorem restarts_valid {rtc : Rtc} {journal : Journal} {gone : List Record} {slots : List Slot}
    (valid : rtc.region.valid = true) (bootCount_eq : rtc.region.bootCount = journal.bootCount)
    (split : journal.rolling = gone ++ Slot.records slots)
    (queued : Queued rtc.data rtc.region.roll slots) : Restarts rtc journal := by
  have kept : rtc.region.recover = { rtc.region with bootCount := rtc.region.bootCount + 1 } := by
    simp [Region.recover, valid]
  simp only [Region.valid, Bool.and_eq_true, beq_iff_eq] at valid
  refine ⟨?_, ?_, ?_, gone, slots, split, ?_⟩ <;> rw [kept]
  · exact valid.1.1.1.1.1.1.1.1.1.1
  · exact valid.1.1.1.1.1.1.1.1.1.2
  · simp only [bootCount_eq]
  · exact queued

theorem Refines.restarts {store : Store} {journal : Journal} (refines : Refines store journal) :
    Restarts store.rtc journal := by
  obtain ⟨gone, slots, split, -, stored⟩ := refines.stored
  exact restarts_valid stored.valid refines.bootCount_eq split stored.queued

/-- Records leave a chain of slots from the front only, and filler is none. -/
theorem records_kept {slots gone kept : List Slot} {r : Ring} {need : Nat}
    (split : slots ++ tailFiller r need = gone ++ kept) :
    Slot.records slots = Slot.records gone ++ Slot.records kept := by
  simpa using congrArg Slot.records split

/-- The rolling list grows by the record that the rolling segment takes. -/
theorem Stored.appendRolling_suffix {rtc : Rtc} {boot rolling gone : List Record}
    {slots : List Slot} {record : Record} {text : CString} (stored : Stored rtc boot slots)
    (split : rolling = gone ++ Slot.records slots)
    (body : text.bytes.take record.body.length = record.body) :
    ∃ gone slots, rolling ++ [record] = gone ++ Slot.records slots ∧ Slot.records slots ≠ [] ∧
      Stored (rtc.appendRolling record.header text) boot slots := by
  obtain ⟨left, kept, parts, after, -⟩ := stored.appendRolling body
  refine ⟨gone ++ Slot.records left, kept ++ [.record record], ?_, by simp, after⟩
  rw [split, records_kept parts]
  simp [List.append_assoc]

theorem Rtc.setRolling_bootCount (rtc : Rtc) (roll : Ring) (data : Nat → UInt8)
    (dropped : UInt32) :
    (rtc.setRolling roll data dropped).region.bootCount = rtc.region.bootCount :=
  rfl

theorem Rtc.bumpSeq_bootCount (rtc : Rtc) :
    rtc.bumpSeq.region.bootCount = rtc.region.bootCount := rfl

theorem Rtc.appendRolling_bootCount (rtc : Rtc) (header : Header) (text : CString) :
    (rtc.appendRolling header text).region.bootCount = rtc.region.bootCount :=
  rtc.setRolling_bootCount _ _ _

/-- Routing a record changes the two segments, the data area and the eviction counter only. -/
theorem Rtc.route_frame (rtc : Rtc) (header : Header) (text : CString) (ts : UInt32) :
    ∃ boot roll data dropped, rtc.route header text ts =
      { region := { rtc.region with boot, roll, dropped }, data } := by
  rw [Rtc.route]
  dsimp only
  split
  · exact ⟨_, _, _, _, rfl⟩
  · exact ⟨_, _, _, _, rfl⟩

theorem Rtc.route_bootCount (rtc : Rtc) (header : Header) (text : CString) (ts : UInt32) :
    (rtc.route header text ts).region.bootCount = rtc.region.bootCount := by
  obtain ⟨boot, roll, data, dropped, routed⟩ := rtc.route_frame header text ts
  rw [routed]

/-- Bytes that a logged line takes from the rolling segment, filler included. -/
def appendedBytes (store : Store) (level : LogLevel) (message : CString) (ts : UInt32) : Nat :=
  let header := lineHeader level message ts
  if store.capture.shouldCapture level ts ∧ ¬ (ts < logBootWindowMs ∧
      (appendBoot store.rtc.region.boot store.rtc.data header message.bytes).isSome) then
    let need := u16 (hdr + roundUp4 header.len)
    let tailGap := sub16 store.rtc.region.roll.cap store.rtc.region.roll.writePos
    (if tailGap < need then tailGap else 0) + need
  else 0

/-- What a logged line can do to RTC memory and to the journal. -/
inductive SinkCase (rtc : Rtc) (journal : Journal) (queue : List Slot) (after : Rtc)
    (logged : Journal) (appended : Nat) : Prop
  | ignored (same : after = rtc) (boot_eq : logged.boot = journal.boot)
      (rolling_eq : logged.rolling = journal.rolling) (appended_eq : appended = 0)
  | boot (record : Record) (stored : Stored after logged.boot queue)
      (roll_eq : after.region.roll = rtc.region.roll)
      (boot_eq : logged.boot = journal.boot ++ [record])
      (rolling_eq : logged.rolling = journal.rolling) (appended_eq : appended = 0)
  | rolling (record : Record) (gone kept : List Slot)
      (split : queue ++ tailFiller rtc.region.roll record.size = gone ++ kept)
      (stored : Stored after logged.boot (kept ++ [.record record]))
      (writePos_eq : after.region.roll.writePos = (rtc.region.roll.writePos +
        (slotBytes (tailFiller rtc.region.roll record.size) + record.size)) % rollCap)
      (boot_eq : logged.boot = journal.boot)
      (rolling_eq : logged.rolling = journal.rolling ++ [record])
      (appended_eq : appended =
        slotBytes (tailFiller rtc.region.roll record.size) + record.size)

theorem Stored.fits_iff {rtc : Rtc} {boot : List Record} {slots : List Slot} {record : Record}
    {text : CString} (stored : Stored rtc boot slots)
    (body : text.bytes.take record.body.length = record.body) :
    (appendBoot rtc.region.boot rtc.data record.header text.bytes).isSome ↔
      Record.bytes boot + record.size ≤ bootCap := by
  rw [bytes_eq]
  constructor
  · intro taken
    by_contra full
    simp [appendBoot_full stored.held (Nat.lt_of_not_le full)] at taken
  · intro room
    obtain ⟨after, data, step, -⟩ := appendBoot_room stored.held body room
    rw [step]
    rfl

theorem Stored.tail_bytes {rtc : Rtc} {boot : List Record} {slots : List Slot}
    (stored : Stored rtc boot slots) (need : Nat) :
    (if sub16 rtc.region.roll.cap rtc.region.roll.writePos < need then
      sub16 rtc.region.roll.cap rtc.region.roll.writePos else 0) =
      slotBytes (tailFiller rtc.region.roll need) := by
  have inside := stored.queued.writePos_lt
  have capacity : rollCap = 2048 := rfl
  rw [stored.queued.cap_eq, sub16_of_le (by omega) (by omega), tailFiller]
  split <;> rfl

/-- A logged line is one of the three cases. -/
theorem sink_case {store : Store} {journal : Journal} {queue : List Slot}
    (stored : Stored store.rtc journal.boot queue) (capture_eq : store.capture = journal.capture)
    (level : LogLevel) (line : Line) (ts : UInt32) :
    SinkCase store.rtc journal queue (LogStore.sink store level (some line.text) ts).rtc
      (journal.sink level line ts) (appendedBytes store level line.text ts) := by
  have body := Record.take_ofLine level line ts
  have stamp : (Record.ofLine level line ts).ts = ts := rfl
  rw [LogStore.sink, Journal.sink, appendedBytes, lineHeader_eq, capture_eq, Journal.route, stamp]
  generalize Record.ofLine level line ts = record at body
  simp only [stored.fits_iff body, record.need_eq, stored.tail_bytes]
  by_cases captured : journal.capture.shouldCapture level ts = true
  · simp only [captured, if_true, true_and, ite_not]
    by_cases early : ts < logBootWindowMs ∧ Record.bytes journal.boot + record.size ≤ bootCap
    · obtain ⟨after, roll⟩ := stored.route_boot body early.1 early.2
      simp only [if_pos early]
      exact .boot record after.bumpSeq roll rfl rfl rfl
    · obtain ⟨gone, kept, split, after, writePos⟩ := stored.appendRolling body
      rw [← stored.held.route_rolling early] at after writePos
      simp only [if_neg early]
      exact .rolling record gone kept split after.bumpSeq writePos rfl rfl rfl
  · simp only [captured, Bool.false_eq_true, if_false, false_and]
    exact .ignored rfl rfl rfl rfl

theorem sink_bootCount (store : Store) (level : LogLevel) (text : CString) (ts : UInt32) :
    (LogStore.sink store level (some text) ts).rtc.region.bootCount =
      store.rtc.region.bootCount := by
  rw [LogStore.sink]
  dsimp only
  split
  · rw [Rtc.bumpSeq_bootCount, Rtc.route_bootCount]
  · rfl

theorem Journal.sink_bootCount (journal : Journal) (level : LogLevel) (line : Line) (ts : UInt32) :
    (journal.sink level line ts).bootCount = journal.bootCount := by
  rw [Journal.sink, Journal.route]
  split_ifs <;> rfl

/-- A logged line keeps the refinement. -/
theorem sink_refines {store : Store} {journal : Journal} (refines : Refines store journal)
    (level : LogLevel) (line : Line) (ts : UInt32) :
    Refines (LogStore.sink store level (some line.text) ts) (journal.sink level line ts) := by
  obtain ⟨gone, slots, split, nonempty, stored⟩ := refines.stored
  refine ⟨?_, ?_, congrArg (Capture.rearm · level ts) refines.capture_eq⟩
  · cases sink_case stored refines.capture_eq level line ts with
    | ignored same boot_eq rolling_eq =>
        rw [same, boot_eq, rolling_eq]
        exact ⟨gone, slots, split, nonempty, stored⟩
    | boot record after _ _ rolling_eq =>
        rw [rolling_eq]
        exact ⟨gone, slots, split, nonempty, after⟩
    | rolling record left kept parts after _ _ rolling_eq =>
        refine ⟨gone ++ Slot.records left, kept ++ [.record record], ?_, by simp, after⟩
        rw [rolling_eq, split, records_kept parts]
        simp [List.append_assoc]
  · rw [sink_bootCount, refines.bootCount_eq, journal.sink_bootCount]

/-- The region that `begin` has set up when it logs its marker. -/
def Rtc.restarted (rtc : Rtc) (reason : UInt32) : Rtc :=
  { rtc with region :=
      { rtc.region.recover with resetReason := reason, boot := resetRing 0 bootCap } }

/-- `begin` stores its marker in both segments. -/
theorem begin_eq (build : Build) (reason : UInt32) (rtc : Rtc) {marker : Line}
    (marker_eq : marker = markerLine build rtc.region.recover.bootCount reason) :
    begin build reason rtc =
      { rtc := (((rtc.restarted reason).route (Record.ofLine .info marker 0).header
          marker.text 0).bumpSeq.appendRolling (Record.ofMarker marker).header marker.text).bumpSeq
        capture := .fresh } := by
  have captured : Capture.fresh.shouldCapture .info 0 = true := by decide
  have unarmed : Capture.fresh.rearm .info 0 = .fresh := by decide
  subst marker_eq
  rw [← lineHeader_eq, ← markerHeader_eq, begin]
  simp only [sink, captured, unarmed, if_true]
  rfl

/-- A boot keeps the rolling list and restarts the boot list. -/
theorem begin_refines {rtc : Rtc} {journal : Journal} (restarts : Restarts rtc journal)
    (build : Build) (reason : UInt32) :
    Refines (LogStore.begin build reason rtc) (journal.begin build reason) := by
  obtain ⟨gone, slots, split, queued⟩ := restarts.rolling
  have counted := restarts.bootCount_eq
  rw [begin_eq build reason rtc rfl, Journal.begin, counted]
  generalize markerLine build (journal.bootCount + 1) reason = marker
  have restarted : Stored (rtc.restarted reason) [] slots :=
    ⟨restarts.magic_eq, restarts.version_eq, BootHeld.empty rtc.data, queued⟩
  have small := (Record.ofLine .info marker 0).size_bounds
  have capacity : bootCap = 5120 := rfl
  have room : Record.bytes [] + (Record.ofLine .info marker 0).size ≤ bootCap := by
    simp only [Record.bytes, List.map_nil, List.sum_nil]
    omega
  obtain ⟨booted, -⟩ :=
    restarted.route_boot (Record.take_ofLine .info marker 0)
      (show (0 : UInt32) < logBootWindowMs by decide) room
  obtain ⟨gone, slots, split, nonempty, after⟩ :=
    booted.bumpSeq.appendRolling_suffix split (Record.take_ofMarker marker)
  refine ⟨⟨gone, slots, split, nonempty, after.bumpSeq⟩, ?_, rfl⟩
  rw [Rtc.bumpSeq_bootCount, Rtc.appendRolling_bootCount, Rtc.bumpSeq_bootCount,
    Rtc.route_bootCount]
  exact counted

/-- One event keeps the refinement. -/
theorem event_refines {store : Store} {journal : Journal} (refines : Refines store journal)
    (event : Event) : Refines (event.onStore store) (event.onJournal journal) := by
  cases event with
  | sink level line ts => exact sink_refines refines level line ts
  | begin build reason => exact begin_refines refines.restarts build reason

/-- A whole run keeps the refinement. -/
theorem events_refine {store : Store} {journal : Journal} (refines : Refines store journal)
    (events : List Event) :
    Refines (events.foldl Event.onStore store) (events.foldl Event.onJournal journal) := by
  induction events generalizing store journal with
  | nil => exact refines
  | cons event events induction => exact induction (event_refines refines event)

/-- The lines that a download shows for a list of records. -/
def Record.lines (segment : Section) (records : List Record) : List (Section × Bytes) :=
  records.map fun entry => (segment, entry.line)

/-- A download of a store that refines a journal. -/
theorem Refines.drain {store : Store} {journal : Journal} (refines : Refines store journal)
    {outSize : Nat} (wide : lineMax < outSize) :
    ∃ gone last, gone < journal.rolling.length ∧
      LogStore.drain store outSize =
        some (Record.lines .boot journal.boot ++
          Record.lines .rolling (journal.rolling.drop gone), last) ∧
      last.overrun = false := by
  obtain ⟨gone, slots, split, nonempty, stored⟩ := refines.stored
  obtain ⟨last, drained, overrun⟩ := drain_eq wide stored.held stored.queued
  have positive := List.length_pos_iff.mpr nonempty
  refine ⟨gone.length, last, by rw [split, List.length_append]; omega, ?_, overrun⟩
  rw [drained, split, List.drop_left]
  rfl

/-- From the first boot on, whatever is logged and however often the chip boots again, a download
returns the records routed to the boot segment since the last boot, and then a nonempty suffix of
all records ever routed to the rolling segment. -/
theorem drain_log (build : Build) (reason : UInt32) (rtc : Rtc)
    (invalid : rtc.region.valid = false) (events : List Event) (outSize : Nat)
    (wide : lineMax < outSize) :
    let store := events.foldl Event.onStore (LogStore.begin build reason rtc)
    let journal := events.foldl Event.onJournal (Journal.blank.begin build reason)
    ∃ gone last, gone < journal.rolling.length ∧
      LogStore.drain store outSize =
        some (Record.lines .boot journal.boot ++
          Record.lines .rolling (journal.rolling.drop gone), last) ∧
      last.overrun = false :=
  (events_refine (begin_refines (restarts_blank invalid) build reason) events).drain wide

/-- A line of the boot window, a reboot and a late error, read with a buffer of 224 bytes. -/
theorem drain_log_reboot :
    let hello : Line := ⟨.literal "hello" (by decide), by decide⟩
    let events := [Event.sink .info hello 5, .begin .unknown 3, .sink .error hello 70000]
    let store := events.foldl Event.onStore (LogStore.begin .unknown 1 .zero)
    let journal := events.foldl Event.onJournal (Journal.blank.begin .unknown 1)
    ∃ gone last, gone < journal.rolling.length ∧
      LogStore.drain store 224 =
        some (Record.lines .boot journal.boot ++
          Record.lines .rolling (journal.rolling.drop gone), last) ∧
      last.overrun = false :=
  drain_log .unknown 1 .zero (by decide) _ 224 (by decide)

end ModbusBridge.LogStore
