import ModbusBridge.LogStore.SingleStores

/-!
# A reset in the middle of a logged line

A reset keeps the stores that `sink` has made so far, and `begin` starts from what they left. Cuts
behind a torn store apart, the interrupted line is then either absent or complete.
-/

namespace ModbusBridge.LogStore

open Memory BlockRing ESPLogger CutShort

/-! ## Cuts of one call -/

/-- The boot segment as `begin` accepts it. -/
def BootRange (r : Ring) : Prop :=
  r.base = 0 ∧ r.cap = bootCap ∧ r.writePos ≤ bootCap ∧ r.used ≤ bootCap

/-- RTC memory from which `begin` recovers the newest part of the given records. -/
structure Recovers (history : List Record) (bootCount : UInt32) (rtc : Rtc) : Prop where
  magic_eq : rtc.region.magic = lsMagic
  version_eq : rtc.region.version = lsVersion
  bootCount_eq : rtc.region.bootCount = bootCount
  boot : BootRange rtc.region.boot
  rolling : ∃ gone slots, history = gone ++ Slot.records slots ∧
    Queued rtc.data rtc.region.roll slots

namespace Recovers

variable {history later gone : List Record} {bootCount : UInt32} {rtc : Rtc} {slots : List Slot}
variable {data : Nat → UInt8} {r : Ring}

theorem valid (recovers : Recovers history bootCount rtc) : rtc.region.valid = true := by
  obtain ⟨base, cap, writePos, used⟩ := recovers.boot
  obtain ⟨gone, slots, -, queued⟩ := recovers.rolling
  have rollEnd := queued.writePos_lt
  have rollStart := queued.start_lt
  have rollUsed := queued.used_le
  simp [Region.valid, recovers.magic_eq, recovers.version_eq, base, cap, queued.base_eq,
    queued.cap_eq, writePos, used, rollEnd, rollStart, rollUsed]

theorem setRolling (recovers : Recovers history bootCount rtc) (dropped : UInt32)
    (split : later = gone ++ Slot.records slots) (queued : Queued data r slots) :
    Recovers later bootCount (rtc.setRolling r data dropped) :=
  ⟨recovers.magic_eq, recovers.version_eq, recovers.bootCount_eq, recovers.boot, gone, slots,
    split, queued⟩

/-- Every cut of the eviction loop between two turns, or behind `used`, is recovered. -/
theorem evictWrites_survives (need : Nat) (recovers : Recovers history bootCount rtc)
    (slots : List Slot) {r : Ring} {gone : List Record}
    (split : history = gone ++ Slot.records slots) (queued : Queued data r slots) (fuel : Nat)
    (enough : r.used ≤ fuel) (dropped : UInt32) :
    Survives Write.apply Write.torn (Recovers history bootCount) (rtc.setRolling r data dropped)
      (evictWrites data need fuel r dropped) := by
  have good := recovers.setRolling dropped split queued
  induction slots generalizing r gone fuel dropped with
  | nil =>
      have used : r.used = 0 := queued.used_eq
      cases fuel with
      | zero => exact .nil good
      | succ fuel =>
          rw [evictWrites, if_neg (by omega)]
          exact .nil good
  | cons slot slots induction =>
      obtain ⟨size, positive, inside, readStart, used⟩ := queued.evict_turn
      obtain ⟨fuel, rfl⟩ := Nat.exists_eq_succ_of_ne_zero (show fuel ≠ 0 by omega)
      rw [evictWrites]
      split
      · have popped := queued.pop
        have kept : history = (gone ++ Slot.records [slot]) ++ Slot.records slots := by
          rw [split, List.append_assoc, ← Slot.records_append]
          rfl
        simp only [size, readStart, used]
        rw [if_neg (by omega)]
        have turned := recovers.setRolling dropped kept popped
        have counted := recovers.setRolling (dropped + 1) kept popped
        exact .skip good rfl (.cons turned
          (induction kept popped fuel (by simp only; omega) (dropped + 1) counted))
      · exact .nil good

/-- Every cut of byte stores into free cells is recovered. -/
theorem byteWrites_survives {count : Nat} (recovers : Recovers history bootCount rtc)
    (split : history = gone ++ Slot.records slots) (queued : Queued data r slots)
    (room : slotBytes slots + count ≤ rollCap) (dropped : UInt32) (bytes : Bytes) {off : Nat}
    (after : bootCap + r.writePos ≤ off)
    (inside : off + bytes.length ≤ bootCap + r.writePos + count) :
    Survives Write.apply Write.torn (Recovers history bootCount) (rtc.setRolling r data dropped)
      (byteWrites off bytes) := by
  induction bytes generalizing data off with
  | nil => exact .nil (recovers.setRolling dropped split queued)
  | cons byte bytes induction =>
      simp only [List.length_cons] at inside
      have kept : Queued (write data off [byte]) r slots :=
        queued.write_free count room fun i _ free =>
          write_outside (by simp only [List.length_singleton]; omega)
      exact .cons (recovers.setRolling dropped split queued)
        (induction kept (by omega) (by omega))

/-- Every cut of the filler part is recovered, but for the one between `used` and `writePos`. -/
theorem fillerWrites_survives (recovers : Recovers history bootCount rtc)
    (split : history = gone ++ Slot.records slots) (queued : Queued data r slots)
    (room : r.used + (rollCap - r.writePos) ≤ rollCap) (dropped : UInt32) :
    Survives Write.apply Write.torn (Recovers history bootCount) (rtc.setRolling r data dropped)
      ((if rollCap - r.writePos ≥ hdr then
          byteWrites (bootCap + r.writePos) (headerBytes fillerHeader)
        else []) ++
        [.roll .tail .used (u16 (r.used + (rollCap - r.writePos))), .roll .tail .writePos 0]) := by
  have free : slotBytes slots + (rollCap - r.writePos) ≤ rollCap := by
    rw [← queued.used_eq]
    exact room
  have closed := recovers.setRolling dropped (by simpa using split) (queued.fill room rfl)
  have flagged := recovers.setRolling dropped split (queued.flag room rfl)
  split_ifs at closed flagged ⊢ with wide
  · refine .append (recovers.byteWrites_survives split queued free dropped _ le_rfl ?_) ?_
    · simp only [headerBytes, List.length_cons, List.length_nil, hdr] at wide ⊢
      omega
    · rw [byteWrites_foldl]
      exact .skip flagged rfl (.nil closed)
  · exact .skip flagged rfl (.nil closed)

/-- Every cut of `fillTail` is recovered, but for those behind torn stores. -/
theorem tailWrites_survives (need : Nat) (recovers : Recovers history bootCount rtc)
    (split : history = gone ++ Slot.records slots) (queued : Queued data r slots)
    (dropped : UInt32) :
    Survives Write.apply Write.torn (Recovers history bootCount) (rtc.setRolling r data dropped)
      (tailWrites r data dropped need) := by
  have inside := queued.writePos_lt
  have capacity : rollCap = 2048 := rfl
  have gap : sub16 r.cap r.writePos = rollCap - r.writePos := by
    rw [queued.cap_eq, sub16_of_le (by omega) (by omega)]
  rw [tailWrites, gap]
  by_cases tight : rollCap - r.writePos < need
  · obtain ⟨⟨left, kept, parts, front⟩, room, writePos⟩ :=
      evict_evicted queued (show rollCap - r.writePos ≤ rollCap by omega) dropped
    have frontSplit : history = (gone ++ Slot.records left) ++ Slot.records kept := by
      rw [split, parts, List.append_assoc, Slot.records_append]
    simp only [if_pos tight]
    have filler := recovers.fillerWrites_survives frontSplit front (by rw [writePos]; exact room)
      (evict data r (rollCap - r.writePos) dropped).2
    rw [writePos] at filler
    rw [List.append_assoc, front.address, writePos]
    refine .append (recovers.evictWrites_survives _ slots split queued r.used le_rfl dropped) ?_
    rw [evictWrites_foldl, ← evict]
    exact filler
  · simp only [if_neg tight]
    exact .nil (recovers.setRolling dropped split queued)

/-- The three blocks of `recordWrites` are the bytes of the record. -/
theorem recordWrites_eq {record : Record} {msg : Bytes} (off : Nat)
    (body : msg.take record.body.length = record.body) :
    recordWrites off record.header msg record.size = byteWrites off record.encode := by
  have headerLength : (headerBytes record.header).length = hdr := rfl
  rw [recordWrites, Record.encode, byteWrites_append, byteWrites_append, headerLength,
    List.length_append, headerLength, ← Nat.add_assoc]
  simp only [Record.header] at *
  rw [body]

/-- Every cut of what follows `fillTail` is recovered without the record or with it, but for those
behind torn stores. -/
theorem placeWrites_survives {record : Record} {msg : Bytes}
    (recovers : Recovers history bootCount rtc)
    (split : history = gone ++ Slot.records slots) (queued : Queued data r slots)
    (tail : r.writePos + record.size ≤ rollCap)
    (body : msg.take record.body.length = record.body) (dropped : UInt32) :
    let evicted := (evict data r record.size dropped).1
    Survives Write.apply Write.torn
      (fun rtc => Recovers history bootCount rtc ∨ Recovers (history ++ [record]) bootCount rtc)
      (rtc.setRolling r data dropped)
      (evictWrites data record.size r.used r dropped ++
        recordWrites (u16 (evicted.base + evicted.writePos)) record.header msg record.size ++
        [.roll .record .writePos (u16 ((evicted.writePos + record.size) % evicted.cap)),
          .roll .record .used (u16 (evicted.used + record.size))]) := by
  have bounds := record.size_bounds
  have capacity : rollCap = 2048 := rfl
  have evicting := recovers.evictWrites_survives record.size slots split queued r.used le_rfl
    dropped
  have evicted := evictWrites_foldl rtc data record.size r.used r dropped
  obtain ⟨⟨left, kept, parts, front⟩, room, writePos⟩ :=
    evict_evicted queued (show record.size ≤ rollCap by omega) dropped
  rw [← evict] at evicted
  generalize evict data r record.size dropped = result at *
  obtain ⟨after, dropped⟩ := result
  dsimp only at *
  have frontSplit : history = (gone ++ Slot.records left) ++ Slot.records kept := by
    rw [split, parts, List.append_assoc, Slot.records_append]
  have longer : history ++ [record] =
      (gone ++ Slot.records left) ++ Slot.records (kept ++ [.record record]) := by
    simp [frontSplit]
  have free : slotBytes kept + record.size ≤ rollCap := by
    rw [← front.used_eq]
    exact room
  have spelling := recovers.byteWrites_survives frontSplit front free dropped record.encode le_rfl
    (by rw [Record.encode_length])
  have spelled := recovers.setRolling dropped frontSplit (front.spell record room)
  have written :=
    recovers.setRolling dropped longer (front.write (by rw [writePos]; exact tail) room)
  rw [front.address, recordWrites_eq _ body]
  refine .append (.append (evicting.mono fun _ => .inl) ?_) ?_
  · rw [evicted]
    exact spelling.mono fun _ => .inl
  · rw [List.foldl_append, evicted, byteWrites_foldl]
    exact .skip (.inl spelled) rfl (.nil (.inr written))

/-- Every cut of `appendCircular` is recovered without the record or with it, but for those behind
torn stores. -/
theorem circularWrites_survives {record : Record} {msg : Bytes}
    (recovers : Recovers history bootCount rtc)
    (body : msg.take record.body.length = record.body) :
    Survives Write.apply Write.torn
      (fun rtc => Recovers history bootCount rtc ∨ Recovers (history ++ [record]) bootCount rtc) rtc
      (circularWrites rtc.region.roll rtc.data record.header msg rtc.region.dropped) := by
  have bounds := record.size_bounds
  have capacity : rollCap = 2048 := rfl
  obtain ⟨gone, slots, split, queued⟩ := recovers.rolling
  have same : rtc.setRolling rtc.region.roll rtc.data rtc.region.dropped = rtc := rfl
  have tail := recovers.tailWrites_survives record.size split queued rtc.region.dropped
  have filled := fillTail_refilled queued (show record.size ≤ rollCap by omega) rtc.region.dropped
  have reached := tailWrites_foldl rtc rtc.region.roll rtc.data rtc.region.dropped record.size
  rw [same] at tail reached
  rw [circularWrites, record.need_eq]
  generalize fillTail rtc.region.roll rtc.data rtc.region.dropped record.size = closed at *
  obtain ⟨middle, data, dropped⟩ := closed
  obtain ⟨⟨left, kept, parts, front⟩, -, room, -⟩ := filled
  have frontSplit : history = (gone ++ Slot.records left) ++ Slot.records kept := by
    rw [split, records_kept parts, List.append_assoc]
  have placing := recovers.placeWrites_survives frontSplit front room body dropped
  simp only [List.append_assoc] at placing ⊢
  refine .append (tail.mono fun _ => .inl) ?_
  rw [reached]
  exact placing

/-- Byte stores below the rolling segment. -/
theorem storeByte (recovers : Recovers history bootCount rtc) {addr : Nat} (below : addr < bootCap)
    (value : UInt8) : Recovers history bootCount (Write.apply rtc (.byte addr value)) := by
  obtain ⟨gone, slots, split, queued⟩ := recovers.rolling
  refine ⟨recovers.magic_eq, recovers.version_eq, recovers.bootCount_eq, recovers.boot, gone, slots,
    split, queued.write_free 0 ?_ fun i _ _ => ?_⟩
  · rw [← queued.used_eq]
    exact queued.used_le
  · exact write_outside (by simp only [List.length_singleton]; omega)

/-- Every cut of `appendBoot` is recovered: `begin` resets the boot segment anyway. -/
theorem bootWrites_survives {record : Record} {msg : Bytes}
    (recovers : Recovers history bootCount rtc)
    (body : msg.take record.body.length = record.body)
    (room : rtc.region.boot.writePos + record.size ≤ bootCap) :
    Survives Write.apply Write.torn (Recovers history bootCount) rtc
      (bootWrites rtc.region.boot record.header msg) := by
  have capacity : bootCap = 5120 := rfl
  obtain ⟨base, cap, -, -⟩ := recovers.boot
  have address : u16 (rtc.region.boot.base + rtc.region.boot.writePos) =
      rtc.region.boot.writePos := by
    rw [base, Nat.zero_add, u16_of_lt (by omega)]
  rw [bootWrites, record.need_eq, address, recordWrites_eq _ body,
    u16_of_lt (n := rtc.region.boot.writePos + record.size) (by omega)]
  refine .of_forall recovers fun state good write member => ?_
  rcases List.mem_append.mp member with bytes | fields
  · obtain ⟨addr, value, rfl, inside⟩ := mem_byteWrites bytes
    rw [Record.encode_length] at inside
    exact good.storeByte (by omega) value
  · obtain ⟨goodBase, goodCap, goodEnd, goodUsed⟩ := good.boot
    simp only [List.mem_cons, List.not_mem_nil, or_false] at fields
    rcases fields with rfl | rfl
    · exact ⟨good.magic_eq, good.version_eq, good.bootCount_eq,
        ⟨goodBase, goodCap, room, goodUsed⟩, good.rolling⟩
    · exact ⟨good.magic_eq, good.version_eq, good.bootCount_eq,
        ⟨goodBase, goodCap, goodEnd, room⟩, good.rolling⟩

end Recovers

theorem Refines.recovers {store : Store} {journal : Journal} (refines : Refines store journal) :
    Recovers journal.rolling journal.bootCount store.rtc := by
  obtain ⟨gone, slots, split, -, stored⟩ := refines.stored
  have held := stored.held
  exact ⟨stored.magic_eq, stored.version_eq, refines.bootCount_eq,
    ⟨held.base_eq, held.cap_eq, held.writePos_le, held.used_eq ▸ held.writePos_le⟩, gone, slots,
    split, stored.queued⟩

/-- `begin` recovers the newest part of the rolling list. -/
theorem Recovers.restarts {journal : Journal} {rtc : Rtc} {bootCount : UInt32}
    (recovers : Recovers journal.rolling bootCount rtc) (counted : bootCount = journal.bootCount) :
    Restarts rtc journal := by
  obtain ⟨gone, slots, split, queued⟩ := recovers.rolling
  exact restarts_valid recovers.valid (recovers.bootCount_eq.trans counted) split queued

/-- `sink` takes the branch that the journal takes. -/
theorem routeWrites_eq {rtc : Rtc} {boot : List Record} {slots : List Slot} {record : Record}
    {text : CString} {ts : UInt32} (stored : Stored rtc boot slots)
    (body : text.bytes.take record.body.length = record.body) :
    routeWrites rtc record.header text ts =
      if ts < logBootWindowMs ∧ Record.bytes boot + record.size ≤ bootCap then
        bootWrites rtc.region.boot record.header text.bytes
      else
        circularWrites rtc.region.roll rtc.data record.header text.bytes rtc.region.dropped := by
  simp only [routeWrites, stored.fits_iff body]

/-- Every cut of a logged line is recovered without the line or with it, but for those behind torn
stores. -/
theorem sinkWrites_survives {store : Store} {journal : Journal} (refines : Refines store journal)
    (level : LogLevel) (line : Line) (ts : UInt32) :
    Survives Write.apply Write.torn
      (fun rtc => Recovers journal.rolling journal.bootCount rtc ∨
        Recovers (journal.sink level line ts).rolling journal.bootCount rtc) store.rtc
      (sinkWrites store level line.text ts) := by
  obtain ⟨gone, slots, split, -, stored⟩ := refines.stored
  have body := Record.take_ofLine level line ts
  have stamp : (Record.ofLine level line ts).ts = ts := rfl
  have recovers := refines.recovers
  have logged := (sink_refines refines level line ts).recovers
  rw [journal.sink_bootCount, sink] at logged
  rw [sinkWrites]
  by_cases captured : store.capture.shouldCapture level ts = true
  · simp only [if_pos captured] at logged ⊢
    have routed : Recovers (journal.sink level line ts).rolling journal.bootCount
        (store.rtc.route (lineHeader level line.text ts) line.text ts) :=
      ⟨logged.magic_eq, logged.version_eq, logged.bootCount_eq, logged.boot, logged.rolling⟩
    refine .append ?_ (.cons ?_ (.nil ?_))
    · rw [Journal.sink, if_pos (refines.capture_eq ▸ captured), lineHeader_eq, Journal.route, stamp,
        routeWrites_eq stored body]
      split_ifs with early
      · have room :
            store.rtc.region.boot.writePos + (Record.ofLine level line ts).size ≤ bootCap := by
          rw [stored.held.writePos_eq, ← bytes_eq]
          exact early.2
        exact (recovers.bootWrites_survives body room).mono fun _ good => .inl good
      · exact recovers.circularWrites_survives body
    · rw [routeWrites_foldl]
      exact .inr routed
    · rw [routeWrites_foldl]
      exact .inr ⟨routed.magic_eq, routed.version_eq, routed.bootCount_eq, routed.boot,
        routed.rolling⟩
  · simp only [if_neg captured]
    exact .nil (.inl recovers)

/-! ## Runs with resets -/

/-- What happens to a log store on hardware: an event runs to its end, or the chip resets after
some of the stores of a logged line and boots again. -/
inductive Incident
  | event (whole : Event)
  | reset (level : LogLevel) (line : Line) (ts : UInt32) (stores : Nat) (build : Build)
      (reason : UInt32)

namespace Incident

/-- The effect on the store. -/
def onStore (store : Store) : Incident → Store
  | event whole => whole.onStore store
  | reset level line ts stores build reason =>
      begin build reason
        (((sinkWrites store level line.text ts).take stores).foldl Write.apply store.rtc)

/-- A reset does not fall behind a torn store. -/
def Clean (store : Store) : Incident → Prop
  | event _ => True
  | reset level line ts stores _ _ =>
      Untorn Write.torn ((sinkWrites store level line.text ts).take stores)

/-- The possible effects on the journal: a line that a reset interrupts is absent or complete. -/
def Outcome (journal : Journal) : Incident → Journal → Prop
  | event whole, after => after = whole.onJournal journal
  | reset level line ts _ build reason, after =>
      after = journal.begin build reason ∨ after = (journal.sink level line ts).begin build reason

/-- No reset of the run falls behind a torn store. -/
def CleanRun : Store → List Incident → Prop
  | _, [] => True
  | store, incident :: incidents =>
      incident.Clean store ∧ CleanRun (incident.onStore store) incidents

instance (store : Store) : (incident : Incident) → Decidable (incident.Clean store)
  | event _ => .isTrue trivial
  | reset level line ts stores _ _ =>
      inferInstanceAs (Decidable (Untorn Write.torn
        ((sinkWrites store level line.text ts).take stores)))

instance decidableCleanRun :
    (store : Store) → (incidents : List Incident) → Decidable (CleanRun store incidents)
  | _, [] => .isTrue trivial
  | store, incident :: incidents =>
      haveI := decidableCleanRun (incident.onStore store) incidents
      inferInstanceAs
        (Decidable (incident.Clean store ∧ CleanRun (incident.onStore store) incidents))

/-- The possible effects of a run on the journal. -/
def Outcomes : Journal → List Incident → Journal → Prop
  | journal, [], after => after = journal
  | journal, incident :: incidents, after =>
      ∃ next, incident.Outcome journal next ∧ Outcomes next incidents after

end Incident

/-- One incident keeps the refinement. -/
theorem incident_refines {store : Store} {journal : Journal} (refines : Refines store journal)
    (incident : Incident) (clean : incident.Clean store) :
    ∃ after, incident.Outcome journal after ∧ Refines (incident.onStore store) after := by
  cases incident with
  | event whole => exact ⟨_, rfl, event_refines refines whole⟩
  | reset level line ts stores build reason =>
      rcases (sinkWrites_survives refines level line ts).take clean with absent | complete
      · exact ⟨_, Or.inl rfl, begin_refines (absent.restarts rfl) build reason⟩
      · exact ⟨_, Or.inr rfl, begin_refines
          (complete.restarts (journal.sink_bootCount level line ts).symm) build reason⟩

/-- A whole run keeps the refinement. -/
theorem incidents_refine {store : Store} {journal : Journal} (refines : Refines store journal)
    (incidents : List Incident) (clean : Incident.CleanRun store incidents) :
    ∃ after, Incident.Outcomes journal incidents after ∧
      Refines (incidents.foldl Incident.onStore store) after := by
  induction incidents generalizing store journal with
  | nil => exact ⟨journal, rfl, refines⟩
  | cons incident incidents induction =>
      obtain ⟨next, outcome, kept⟩ := incident_refines refines incident clean.1
      obtain ⟨after, outcomes, refined⟩ := induction kept clean.2
      exact ⟨after, ⟨next, outcome, outcomes⟩, refined⟩

/-- A download after resets. As long as no reset falls behind a torn store, it returns a nonempty
suffix of the records ever routed to the rolling segment, with every interrupted line absent or
complete. -/
theorem drain_after_resets (build : Build) (reason : UInt32) (rtc : Rtc)
    (invalid : rtc.region.valid = false) (incidents : List Incident)
    (clean : Incident.CleanRun (begin build reason rtc) incidents) (outSize : Nat)
    (wide : lineMax < outSize) :
    ∃ journal, Incident.Outcomes (Journal.blank.begin build reason) incidents journal ∧
      ∃ gone last, gone < journal.rolling.length ∧
        drain (incidents.foldl Incident.onStore (begin build reason rtc)) outSize =
          some (Record.lines .boot journal.boot ++
            Record.lines .rolling (journal.rolling.drop gone), last) ∧
        last.overrun = false := by
  have booted := begin_refines (restarts_blank invalid) build reason
  obtain ⟨journal, outcomes, refines⟩ := incidents_refine booted incidents clean
  exact ⟨journal, outcomes, refines.drain wide⟩

/-- A reset behind the first store of a line that evicts nothing: no store is torn there. -/
theorem drain_after_resets_once :
    let incidents :=
      [Incident.event (.sink .error (.xs 160 (by decide)) 70000),
        .reset .warn (.xs 20 (by decide)) 70001 1 .unknown 4]
    ∃ journal, Incident.Outcomes (Journal.blank.begin .unknown 1) incidents journal ∧
      ∃ gone last, gone < journal.rolling.length ∧
        drain (incidents.foldl Incident.onStore (begin .unknown 1 .zero)) 224 =
          some (Record.lines .boot journal.boot ++
            Record.lines .rolling (journal.rolling.drop gone), last) ∧
        last.overrun = false :=
  drain_after_resets .unknown 1 .zero (by decide) _
    (by decide +kernel) 224 (by decide)

/-- A log whose rolling segment is full to the last byte. -/
def brimful : List Event :=
  List.replicate 11 (.sink .error (.xs 160 (by decide)) 131092) ++
    [.sink .error (.xs 132 (by decide)) 131092]

/-- A reset right behind the store to `readStart` in the loop of `evict`: the download shows a line
that was never logged, not even by the interrupted call. -/
theorem drain_phantom_line :
    let store := brimful.foldl Event.onStore (begin .unknown 2 .zero)
    let journal := brimful.foldl Event.onJournal (Journal.blank.begin .unknown 2)
    let after := (journal.sink .error (.xs 160 (by decide)) 131092).begin .unknown 6
    let crashed :=
      (Incident.reset .error (.xs 160 (by decide)) 131092 1 .unknown 6).onStore store
    let phantom := ascii "[2021161080][INFO] xxxxxxxxxxxxxxxxxxxx\n"
    (drain crashed 224).map (fun shown => shown.1.getLast?) = some (some (.rolling, phantom)) ∧
      ∀ record ∈ after.rolling, record.line ≠ phantom := by
  decide +kernel

end ModbusBridge.LogStore
