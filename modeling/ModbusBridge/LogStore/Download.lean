import ModbusBridge.LogStore.Refinement

/-!
# A download while lines are logged

One reader calls `next` while other tasks log lines; the lock makes each call atomic. A session
carries the reader's cursor and what it has been shown, and it remembers what each segment held
when the cursor entered it.
-/

namespace ModbusBridge.LogStore

open Memory BlockRing ESPLogger

/-! ## Sessions -/

/-- The lines that a download without writers shows of a segment. -/
def heldLines (store : Store) (segment : Section) : List Bytes :=
  match drain store (lineMax + 1) with
  | some (lines, _) => (lines.filter fun shown => shown.1 = segment).map fun shown => shown.2
  | none => []

/-- A download under way. -/
structure Session where
  store : Store
  cursor : Cursor
  /-- Lines returned from the boot segment. -/
  bootShown : List Bytes
  /-- Lines returned from the rolling segment. -/
  rollingShown : List Bytes
  /-- What the boot segment held when the cursor entered it. -/
  bootHeld : List Bytes
  /-- What the rolling segment held when the cursor entered it. -/
  rollingHeld : List Bytes
  /-- Bytes appended to the rolling segment since the cursor entered it. -/
  appended : Nat

/-- `openRead`. -/
def Session.start (store : Store) : Session where
  store := store
  cursor := openRead store
  bootShown := []
  rollingShown := []
  bootHeld := heldLines store .boot
  rollingHeld := []
  appended := 0

/-- One atomic step: a line is logged, or the reader calls `next`. -/
inductive Step
  | sink (level : LogLevel) (line : Line) (ts : UInt32)
  | next

namespace Step

/-- The reader's turn. -/
def isNext : Step → Bool
  | sink _ _ _ => false
  | next => true

/-- The effect of a step on the session. -/
def onSession (outSize : Nat) (session : Session) : Step → Session
  | sink level line ts =>
      { session with
        store := LogStore.sink session.store level (some line.text) ts
        appended := session.appended + appendedBytes session.store level line.text ts }
  | next =>
      let result := LogStore.next session.store session.cursor outSize
      let enters := session.cursor.segment = .boot ∧ result.1.segment ≠ .boot
      { session with
        cursor := result.1
        bootShown := session.bootShown ++
          if result.1.recordSegment = .boot then result.2.toList else []
        rollingShown := session.rollingShown ++
          if result.1.recordSegment = .boot then [] else result.2.toList
        rollingHeld :=
          if enters then heldLines session.store .rolling else session.rollingHeld
        appended := if enters then 0 else session.appended }

/-- The effect of a step on the journal. -/
def onJournal (journal : Journal) : Step → Journal
  | sink level line ts => journal.sink level line ts
  | next => journal

end Step

/-- The record before the cursor has been evicted, and the test of `next` does not see it. -/
def Session.Lapped (session : Session) : Prop :=
  let used := session.store.rtc.region.roll.used
  session.cursor.segment = .rolling ∧ 0 < session.cursor.remaining ∧
    session.cursor.remaining ≤ used ∧ used < session.cursor.remaining + session.appended

instance (session : Session) : Decidable session.Lapped := by
  rw [Session.Lapped]
  infer_instance

/-- The reader never calls `next` on an evicted record that the test of `next` does not see. -/
def Unlapped (outSize : Nat) : Session → List Step → Prop
  | _, [] => True
  | session, step :: steps =>
      (step.isNext → ¬ session.Lapped) ∧ Unlapped outSize (step.onSession outSize session) steps

instance decidableUnlapped (outSize : Nat) :
    (session : Session) → (steps : List Step) → Decidable (Unlapped outSize session steps)
  | _, [] => .isTrue trivial
  | session, step :: steps =>
      haveI := decidableUnlapped outSize (step.onSession outSize session) steps
      inferInstanceAs (Decidable (_ ∧ _))

/-- What has been shown of a segment is a beginning of what it held, and all of it in the end. -/
def Shows (shown held : List Bytes) (complete : Prop) : Prop :=
  shown <+: held ∧ (complete → shown = held)

/-- The reader has been told about an overrun, or it has been shown what the segments held. -/
def Session.Coherent (session : Session) : Prop :=
  session.cursor.overrun = true ∨
    (Shows session.bootShown session.bootHeld (session.cursor.segment ≠ .boot) ∧
      Shows session.rollingShown session.rollingHeld (session.cursor.segment = .done))

/-- Every line that the reader has been shown is the line of a record that was stored. -/
def Session.Genuine (session : Session) (journal : Journal) : Prop :=
  ∀ line ∈ session.bootShown ++ session.rollingShown,
    ∃ record ∈ journal.boot ++ journal.rolling, record.line = line

theorem heldLines_eq {store : Store} {records : List Record} {queue : List Slot}
    (held : BootHeld store.rtc.data store.rtc.region.boot records)
    (queued : Queued store.rtc.data store.rtc.region.roll queue) :
    heldLines store .boot = records.map Record.line ∧
      heldLines store .rolling = (Slot.records queue).map Record.line := by
  obtain ⟨last, drained, -⟩ := drain_eq (Nat.lt_succ_self lineMax) held queued
  rw [heldLines, heldLines, drained]
  simp [List.filter_append, List.filter_map, Function.comp_def]

/-! ## The cursor between the old and the new slots -/

/-- The cursor has walked to some slots of a segment; others were appended after it entered. -/
structure Ahead (cap : Nat) (cursor : Cursor) (rest new : List Slot) (finish : Nat) : Prop where
  inside : cursor.pos < cap
  remaining_eq : cursor.remaining = slotBytes rest
  finish_eq : (cursor.pos + slotBytes (rest ++ new)) % cap = finish % cap

namespace Ahead

variable {data : Nat → UInt8} {r : Ring} {cursor after : Cursor} {start finish middle : Nat}
variable {front gone rest new : List Slot}

/-- As long as the slots from the cursor on are queued, it stands before them. -/
theorem before (ahead : Ahead r.cap cursor rest new finish) (addressable : r.Addressable)
    (startInside : start < r.cap)
    (chain :
      Chain (slotLayout r.cap) (cells data r) start (front ++ (rest ++ new)) (finish % r.cap))
    (used : slotBytes rest ≤ r.used) (used_le : r.used ≤ r.cap) :
    ∃ middle, Before data r cursor rest middle := by
  obtain ⟨middle, first, -⟩ := (chain.resume startInside ahead.inside ahead.finish_eq).split
  exact ⟨middle, addressable, ahead.inside, first, ahead.remaining_eq,
    ahead.remaining_eq ▸ used, used_le⟩

/-- A cursor that moves over old slots still has the new ones behind them. -/
theorem step (ahead : Ahead r.cap cursor (gone ++ rest) new finish)
    (before : Before data r cursor (gone ++ rest) middle)
    (reached : Before data r after rest middle) : Ahead r.cap after rest new finish := by
  refine ⟨reached.inside, reached.remaining_eq, ?_⟩
  have old := before.chain.stop_eq before.inside
  have later := reached.chain.stop_eq reached.inside
  simp only [slotLayout_total, slotLayout_cap] at old later
  rw [← ahead.finish_eq, slotBytes_append, slotBytes_append (gone ++ rest), ← Nat.add_assoc,
    ← Nat.add_assoc, ← Nat.mod_add_mod, ← later, old, Nat.mod_add_mod]

/-- Slots that are appended lie behind the others. -/
theorem append {cap : Nat} (ahead : Ahead cap cursor rest new finish) (added : List Slot) :
    Ahead cap cursor rest (new ++ added) (finish + slotBytes added) := by
  refine ⟨ahead.inside, ahead.remaining_eq, ?_⟩
  rw [← List.append_assoc, slotBytes_append (rest ++ new), ← Nat.add_assoc, ← Nat.mod_add_mod,
    ahead.finish_eq, Nat.mod_add_mod]

theorem congr {cap finish' : Nat} (ahead : Ahead cap cursor rest new finish)
    (same : finish % cap = finish' % cap) : Ahead cap cursor rest new finish' :=
  ⟨ahead.inside, ahead.remaining_eq, ahead.finish_eq.trans same⟩

end Ahead

/-- The queue reaches back to the cursor when it is no shorter than what lies ahead. -/
theorem suffix_of_bytes {queue older ahead : List Slot} (suffix : queue <:+ older ++ ahead)
    (positive : ∀ slot ∈ ahead, 0 < slot.size) (bytes : slotBytes ahead ≤ slotBytes queue) :
    ahead <:+ queue := by
  rcases List.suffix_or_suffix_of_suffix suffix (List.suffix_append older ahead) with short | long
  · obtain ⟨front, rfl⟩ := short
    cases front with
    | nil => exact List.suffix_refl _
    | cons slot front =>
        have := positive slot (by simp)
        simp only [List.cons_append, slotBytes_cons, slotBytes_append] at bytes
        omega
  · exact long

/-- What a call of `next` in the rolling segment returns when nothing ahead is evicted. -/
inductive RollingNext (rest new : List Slot) (finish : Nat) (result : Cursor × Option Bytes) : Prop
  | shown (entry : Record) (gone left : List Slot) (split : rest = gone ++ left)
      (one : Slot.records gone = [entry]) (line_eq : result.2 = some entry.line)
      (walks : result.1.segment = .rolling) (source : result.1.recordSegment = .rolling)
      (ahead : Ahead rollCap result.1 left new finish)
  | finished (none_left : Slot.records rest = []) (line_eq : result.2 = none)
      (done : result.1.segment = .done)

theorem rolling_next {store : Store} {cursor : Cursor} {boot : List Record}
    {queue older rest new : List Slot} {outSize : Nat} (wide : lineMax < outSize)
    (stored : Stored store.rtc boot queue) (walks : cursor.segment = .rolling)
    (suffix : queue <:+ older ++ (rest ++ new)) (positive : ∀ slot ∈ rest ++ new, 0 < slot.size)
    (ahead : Ahead rollCap cursor rest new store.rtc.region.roll.writePos)
    (intact : slotBytes rest + slotBytes new ≤ store.rtc.region.roll.used) :
    RollingNext rest new store.rtc.region.roll.writePos (next store cursor outSize) := by
  have queued := stored.queued
  obtain ⟨front, rfl⟩ := suffix_of_bytes suffix positive
    (by rw [← queued.used_eq, slotBytes_append]; exact intact)
  have chain := queued.chain
  rw [← Nat.mod_eq_of_lt queued.writePos_lt, ← queued.cap_eq] at chain
  rw [← queued.cap_eq] at ahead
  obtain ⟨middle, before⟩ := ahead.before queued.addressable
    (by rw [queued.cap_eq]; exact queued.start_lt) chain (by omega)
    (by rw [queued.cap_eq]; exact queued.used_le)
  cases found : Slot.records rest with
  | nil =>
      obtain ⟨pos, leaves⟩ := before.next_leave wide walks found
      rw [leaves]
      exact .finished found rfl rfl
  | cons entry more =>
      obtain ⟨gone, left, pos, split, one, -, reached, shows⟩ :=
        before.next_record wide (by simp [walked, walks]) (by simp [walks]) found
      subst split
      have moved := ahead.step before reached
      rw [queued.cap_eq] at moved
      rw [shows]
      exact .shown entry gone left rfl one rfl walks walks moved

/-! ## The phases of a session -/

/-- The cursor walks the boot segment, to which records may be added behind it. -/
structure BootPhase (session : Session) (journal : Journal) (gone rest new : List Record) :
    Prop where
  refines : Refines session.store journal
  walks : session.cursor.segment = .boot
  boot_eq : journal.boot = gone ++ (rest ++ new)
  ahead : Ahead bootCap session.cursor (rest.map .record) (new.map .record)
    (slotBytes (journal.boot.map .record))
  bootShown_eq : session.bootShown = gone.map Record.line
  bootHeld_eq : session.bootHeld = (gone ++ rest).map Record.line
  rollingShown_eq : session.rollingShown = []
  rollingHeld_eq : session.rollingHeld = []

/-- The cursor walks the rolling segment, from which slots may be evicted before it. -/
structure RollingPhase (session : Session) (journal : Journal) (older : List Record)
    (gone rest new queue : List Slot) : Prop where
  stored : Stored session.store.rtc journal.boot queue
  capture_eq : session.store.capture = journal.capture
  walks : session.cursor.segment = .rolling
  bootShown_eq : session.bootShown = session.bootHeld
  rolling_eq : journal.rolling = older ++ Slot.records (gone ++ (rest ++ new))
  suffix : queue <:+ gone ++ (rest ++ new)
  positive : ∀ slot ∈ rest ++ new, 0 < slot.size
  ahead : Ahead rollCap session.cursor rest new session.store.rtc.region.roll.writePos
  appended_eq : session.appended = slotBytes new
  rollingShown_eq : session.rollingShown = (Slot.records gone).map Record.line
  rollingHeld_eq : session.rollingHeld = (Slot.records (gone ++ rest)).map Record.line

/-- The cursor has left both segments. -/
structure DonePhase (session : Session) : Prop where
  walks : session.cursor.segment = .done
  complete : session.cursor.overrun = true ∨
    (session.bootShown = session.bootHeld ∧ session.rollingShown = session.rollingHeld)

/-- A session is in one of three phases. -/
inductive Phase (session : Session) (journal : Journal) : Prop
  | boot {gone rest new} (phase : BootPhase session journal gone rest new)
  | rolling {older gone rest new queue}
      (phase : RollingPhase session journal older gone rest new queue)
  | done (phase : DonePhase session)

theorem Phase.coherent {session : Session} {journal : Journal} (phase : Phase session journal) :
    session.Coherent := by
  cases phase with
  | @boot gone rest new phase =>
      refine .inr ⟨⟨?_, fun left => absurd phase.walks left⟩, ?_, fun done => ?_⟩
      · rw [phase.bootShown_eq, phase.bootHeld_eq, List.map_append]
        exact List.prefix_append _ _
      · rw [phase.rollingShown_eq]
        exact List.nil_prefix
      · rw [phase.walks] at done
        contradiction
  | @rolling older gone rest new queue phase =>
      refine .inr ⟨⟨?_, fun _ => phase.bootShown_eq⟩, ?_, fun done => ?_⟩
      · exact phase.bootShown_eq ▸ List.prefix_rfl
      · rw [phase.rollingShown_eq, phase.rollingHeld_eq, Slot.records_append, List.map_append]
        exact List.prefix_append _ _
      · rw [phase.walks] at done
        contradiction
  | done phase =>
      rcases phase.complete with overrun | ⟨boot, rolling⟩
      · exact .inl overrun
      · exact .inr ⟨⟨boot ▸ List.prefix_rfl, fun _ => boot⟩, rolling ▸ List.prefix_rfl,
          fun _ => rolling⟩

/-! ## A session begins -/

theorem start_phase {store : Store} {journal : Journal} (refines : Refines store journal) :
    BootPhase (Session.start store) journal [] journal.boot [] := by
  obtain ⟨gone, slots, split, -, stored⟩ := refines.stored
  have held := stored.held
  refine ⟨refines, rfl, by simp, ⟨?_, ?_, ?_⟩, rfl, ?_, rfl, rfl⟩
  · simp only [Session.start, openRead, held.readStart_eq]
    decide
  · simp only [Session.start, openRead, held.used_eq, held.writePos_eq]
  · simp [Session.start, openRead, held.readStart_eq]
  · exact (heldLines_eq held stored.queued).1

/-! ## A line is logged -/

theorem tailFiller_positive {data : Nat → UInt8} {r : Ring} {slots : List Slot}
    (queued : Queued data r slots) (need : Nat) :
    ∀ slot ∈ tailFiller r need, 0 < slot.size := by
  have inside := queued.writePos_lt
  intro slot member
  rw [tailFiller] at member
  split at member
  · obtain rfl := List.mem_singleton.mp member
    simp only [Slot.size]
    omega
  · simp at member

theorem BootPhase.sink {session : Session} {journal : Journal} {gone rest new : List Record}
    (phase : BootPhase session journal gone rest new) (outSize : Nat) (level : LogLevel)
    (line : Line) (ts : UInt32) :
    ∃ new, BootPhase ((Step.sink level line ts).onSession outSize session)
      (journal.sink level line ts) gone rest new := by
  have refined := sink_refines phase.refines level line ts
  obtain ⟨_, queue, -, -, stored⟩ := phase.refines.stored
  have same (boot_eq : (journal.sink level line ts).boot = journal.boot) :
      BootPhase ((Step.sink level line ts).onSession outSize session)
        (journal.sink level line ts) gone rest new :=
    ⟨refined, phase.walks, boot_eq.trans phase.boot_eq, boot_eq ▸ phase.ahead,
      phase.bootShown_eq, phase.bootHeld_eq, phase.rollingShown_eq, phase.rollingHeld_eq⟩
  cases sink_case stored phase.refines.capture_eq level line ts with
  | ignored _ boot_eq => exact ⟨new, same boot_eq⟩
  | rolling _ _ _ _ _ _ boot_eq => exact ⟨new, same boot_eq⟩
  | boot record _ _ boot_eq =>
      refine ⟨new ++ [record], refined, phase.walks, ?_, ?_, phase.bootShown_eq,
        phase.bootHeld_eq, phase.rollingShown_eq, phase.rollingHeld_eq⟩
      · rw [boot_eq, phase.boot_eq]
        simp [List.append_assoc]
      · have grown := phase.ahead.append [Slot.record record]
        simp only [Step.onSession, boot_eq]
        simpa using grown

/-- A queue that loses its oldest slots and gains new ones is still the end of the stream. -/
theorem suffix_of_split {queue stream tail left kept : List Slot} (suffix : queue <:+ stream)
    (split : queue ++ tail = left ++ kept) (last : List Slot) :
    kept ++ last <:+ stream ++ (tail ++ last) := by
  obtain ⟨front, rfl⟩ := suffix
  refine ⟨front ++ left, ?_⟩
  calc
    front ++ left ++ (kept ++ last) = front ++ (left ++ kept) ++ last := by
      simp only [List.append_assoc]
    _ = front ++ queue ++ (tail ++ last) := by
      rw [← split]
      simp only [List.append_assoc]

theorem tail_positive {tail : List Slot} (filler : ∀ slot ∈ tail, 0 < slot.size)
    (record : Record) : ∀ slot ∈ tail ++ [Slot.record record], 0 < slot.size := by
  intro slot member
  rcases List.mem_append.mp member with inTail | last
  · exact filler slot inTail
  · obtain rfl := List.mem_singleton.mp last
    have small := record.size_bounds
    simp only [Slot.size, hdr] at *
    omega

theorem RollingPhase.sink {session : Session} {journal : Journal} {older : List Record}
    {gone rest new queue : List Slot}
    (phase : RollingPhase session journal older gone rest new queue)
    (outSize : Nat) (level : LogLevel) (line : Line) (ts : UInt32) :
    ∃ new queue, RollingPhase ((Step.sink level line ts).onSession outSize session)
      (journal.sink level line ts) older gone rest new queue := by
  have capture := congrArg (Capture.rearm · level ts) phase.capture_eq
  cases sink_case phase.stored phase.capture_eq level line ts with
  | ignored same boot_eq rolling_eq appended_eq =>
      refine ⟨new, queue, ?_, capture, phase.walks, phase.bootShown_eq,
        rolling_eq.trans phase.rolling_eq, phase.suffix, phase.positive, ?_, ?_,
        phase.rollingShown_eq, phase.rollingHeld_eq⟩
      · simp only [Step.onSession, same, boot_eq]
        exact phase.stored
      · simp only [Step.onSession, same]
        exact phase.ahead
      · simp only [Step.onSession, appended_eq, phase.appended_eq, Nat.add_zero]
  | boot record stored roll_eq boot_eq rolling_eq appended_eq =>
      refine ⟨new, queue, stored, capture, phase.walks, phase.bootShown_eq,
        rolling_eq.trans phase.rolling_eq, phase.suffix, phase.positive, ?_, ?_,
        phase.rollingShown_eq, phase.rollingHeld_eq⟩
      · simp only [Step.onSession, roll_eq]
        exact phase.ahead
      · simp only [Step.onSession, appended_eq, phase.appended_eq, Nat.add_zero]
  | rolling record left kept split stored writePos_eq boot_eq rolling_eq appended_eq =>
      have filler := tailFiller_positive phase.stored.queued record.size
      have records := records_tailFiller session.store.rtc.region.roll record.size
      generalize tailFiller session.store.rtc.region.roll record.size = tail at *
      refine ⟨new ++ (tail ++ [Slot.record record]), kept ++ [Slot.record record], stored, capture,
        phase.walks, phase.bootShown_eq, ?_, ?_, ?_, ?_, ?_, phase.rollingShown_eq,
        phase.rollingHeld_eq⟩
      · rw [rolling_eq, phase.rolling_eq]
        simp [records, List.append_assoc]
      · have grown := suffix_of_split phase.suffix split [Slot.record record]
        simpa only [List.append_assoc] using grown
      · intro slot member
        rw [← List.append_assoc] at member
        rcases List.mem_append.mp member with old | fresh
        · exact phase.positive slot old
        · exact tail_positive filler record slot fresh
      · simp only [Step.onSession]
        refine (phase.ahead.append _).congr ?_
        rw [writePos_eq, Nat.mod_mod, slotBytes_append]
        simp [Slot.size]
      · simp only [Step.onSession, appended_eq, phase.appended_eq, slotBytes_append]
        simp [Slot.size]

/-! ## The reader calls `next` -/

theorem slotBytes_pos {slots : List Slot} (positive : ∀ slot ∈ slots, 0 < slot.size)
    (ne : slots ≠ []) : 0 < slotBytes slots := by
  obtain ⟨slot, rest, rfl⟩ := List.exists_cons_of_ne_nil ne
  have := positive slot List.mem_cons_self
  rw [slotBytes_cons]
  omega

/-- What a step of the reader leaves: a phase, and lines of stored records only. -/
def Continues (session after : Session) (journal : Journal) : Prop :=
  Phase after journal ∧ ∀ line ∈ after.bootShown ++ after.rollingShown,
    line ∈ session.bootShown ++ session.rollingShown ∨
      ∃ record ∈ journal.boot ++ journal.rolling, record.line = line

section

variable {session : Session} {journal : Journal} {older : List Record}
  {gone rest new queue : List Slot} {outSize : Nat}

/-- The cursor leaves the rolling segment. -/
theorem RollingPhase.ends (phase : RollingPhase session journal older gone rest new queue)
    {after : Cursor}
    (step : LogStore.next session.store session.cursor outSize = (after, none))
    (done : after.segment = .done)
    (complete : after.overrun = true ∨ session.rollingShown = session.rollingHeld) :
    Continues session (Step.next.onSession outSize session) journal := by
  have stays : ¬ (session.cursor.segment = .boot) := by rw [phase.walks]; decide
  refine ⟨.done ⟨?_, ?_⟩, fun line member => .inl ?_⟩
  · simpa only [Step.onSession, step] using done
  · simp only [Step.onSession, step, stays, false_and, if_false, Option.toList_none, ite_self,
      List.append_nil]
    exact complete.imp_right fun shown => ⟨phase.bootShown_eq, shown⟩
  · simpa [Step.onSession, step] using member

/-- The cursor shows the next record of the rolling segment. -/
theorem RollingPhase.shows {walkedOver ahead : List Slot} {after : Cursor} {entry : Record}
    (phase : RollingPhase session journal older gone (walkedOver ++ ahead) new queue)
    (step : LogStore.next session.store session.cursor outSize = (after, some entry.line))
    (one : Slot.records walkedOver = [entry]) (walks : after.segment = .rolling)
    (source : after.recordSegment = .rolling)
    (behind : Ahead rollCap after ahead new session.store.rtc.region.roll.writePos) :
    Continues session (Step.next.onSession outSize session) journal := by
  have stays : ¬ (session.cursor.segment = .boot) := by rw [phase.walks]; decide
  have elsewhere : ¬ (after.recordSegment = .boot) := by rw [source]; decide
  have moved : RollingPhase (Step.next.onSession outSize session) journal older
      (gone ++ walkedOver) ahead new queue := by
    refine ⟨phase.stored, phase.capture_eq, ?_, ?_, ?_, ?_, ?_, ?_, ?_, ?_, ?_⟩
    · simpa only [Step.onSession, step] using walks
    · simp only [Step.onSession, step, elsewhere, if_false, List.append_nil]
      exact phase.bootShown_eq
    · rw [phase.rolling_eq]
      simp [List.append_assoc]
    · simpa [List.append_assoc] using phase.suffix
    · exact fun slot member => phase.positive slot (by simp_all)
    · simpa only [Step.onSession, step] using behind
    · simp only [Step.onSession, stays, false_and, if_false]
      exact phase.appended_eq
    · simp only [Step.onSession, step, elsewhere, if_false, phase.rollingShown_eq,
        Slot.records_append, one, Option.toList_some, List.map_append, List.map_cons,
        List.map_nil]
    · simp only [Step.onSession, stays, false_and, if_false]
      rw [phase.rollingHeld_eq, List.append_assoc]
  refine ⟨.rolling moved, fun line member => ?_⟩
  simp only [Step.onSession, step, elsewhere, if_false, List.append_nil,
    Option.toList_some, ← List.append_assoc] at member
  rcases List.mem_append.mp member with old | fresh
  · exact .inl old
  · refine .inr ⟨entry, ?_, (List.mem_singleton.mp fresh).symm⟩
    simp [phase.rolling_eq, one]

theorem RollingPhase.next (wide : lineMax < outSize)
    (phase : RollingPhase session journal older gone rest new queue)
    (seen : ¬ session.Lapped) :
    Continues session (Step.next.onSession outSize session) journal := by
  by_cases left : session.cursor.remaining = 0
  · have nothing : rest = [] := by
      by_contra ne
      have := slotBytes_pos (fun slot member => phase.positive slot (by simp [member])) ne
      have := phase.ahead.remaining_eq
      omega
    refine phase.ends (next_finished wide phase.walks left) rfl (.inr ?_)
    rw [phase.rollingShown_eq, phase.rollingHeld_eq, nothing, List.append_nil]
  · by_cases lapped : session.store.rtc.region.roll.used < session.cursor.remaining
    · exact phase.ends (next_lapped wide phase.walks lapped) rfl (.inl rfl)
    · have intact : slotBytes rest + slotBytes new ≤ session.store.rtc.region.roll.used := by
        rw [← phase.ahead.remaining_eq, ← phase.appended_eq]
        by_contra short
        exact seen ⟨phase.walks, by omega, by omega, by omega⟩
      have result := rolling_next wide phase.stored phase.walks phase.suffix phase.positive
        phase.ahead intact
      rcases step : LogStore.next session.store session.cursor outSize with ⟨after, line⟩
      rw [step] at result
      cases result with
      | finished none_left line_eq done =>
          simp only at line_eq done
          subst line_eq
          refine phase.ends step done (.inr ?_)
          rw [phase.rollingShown_eq, phase.rollingHeld_eq, Slot.records_append, none_left,
            List.append_nil]
      | shown entry walkedOver ahead split one line_eq walks source behind =>
          simp only at line_eq walks source behind
          subst line_eq split
          exact phase.shows step one walks source behind

end

/-- The session at the moment when the cursor enters the rolling segment. -/
def Session.enter (session : Session) : Session :=
  { session with
    cursor := enterRolling session.store.rtc.region session.cursor
    rollingHeld := heldLines session.store .rolling
    appended := 0 }

/-- While the boot segment is walked, the cursor stands before what is left of it. -/
theorem BootPhase.before {session : Session} {journal : Journal} {gone rest new : List Record}
    (phase : BootPhase session journal gone rest new) :
    ∃ middle, Before session.store.rtc.data session.store.rtc.region.boot session.cursor
      (rest.map .record) middle := by
  obtain ⟨_, queue, -, -, stored⟩ := phase.refines.stored
  have held := stored.held
  have chain := held.chain
  have used := held.used_eq
  have reach := held.writePos_le
  have capacity : bootCap = 5120 := rfl
  rw [held.writePos_eq] at used
  rw [held.writePos_eq, phase.boot_eq, List.map_append, List.map_append] at chain
  have ahead := phase.ahead
  rw [phase.boot_eq, List.map_append, List.map_append] at ahead used
  rw [← held.cap_eq] at chain ahead
  refine ahead.before held.addressable (by rw [held.cap_eq]; decide) chain ?_ ?_
  · rw [used, slotBytes_append, slotBytes_append]
    omega
  · rw [held.used_eq, held.cap_eq]
    exact reach

theorem BootPhase.enter {session : Session} {journal : Journal} {gone new : List Record}
    {outSize : Nat} (wide : lineMax < outSize) (phase : BootPhase session journal gone [] new) :
    ∃ older queue, RollingPhase session.enter journal older [] queue [] queue ∧
      Step.next.onSession outSize session = Step.next.onSession outSize session.enter := by
  obtain ⟨older, queue, split, -, stored⟩ := phase.refines.stored
  have queued := stored.queued
  have entered : RollingPhase session.enter journal older [] queue [] queue := by
    refine ⟨stored, phase.refines.capture_eq, rfl, ?_, by simpa using split, by simp, ?_,
      ⟨queued.start_lt, queued.used_eq, ?_⟩, rfl, phase.rollingShown_eq, ?_⟩
    · simp only [Session.enter, phase.bootShown_eq, phase.bootHeld_eq, List.append_nil]
    · exact fun slot member => queued.chain.size_pos_of_mem (by simpa using member)
    · have finish := queued.chain.stop_eq queued.start_lt
      have inside := queued.writePos_lt
      simp only [slotLayout_total, slotLayout_cap] at finish
      simp only [Session.enter, enterRolling, List.append_nil]
      rw [← finish, Nat.mod_eq_of_lt inside]
    · exact (heldLines_eq stored.held queued).2
  obtain ⟨middle, before⟩ := phase.before
  have same := before.next_enter wide phase.walks (by simp) queued
  have result := rolling_next wide entered.stored entered.walks entered.suffix entered.positive
    entered.ahead (by rw [slotBytes_nil]; exact queued.used_eq.ge)
  have left : (LogStore.next session.store
      (enterRolling session.store.rtc.region session.cursor) outSize).1.segment ≠ .boot := by
    cases result with
    | shown _ _ _ _ _ _ walks => exact fun stuck => by cases walks.symm.trans stuck
    | finished _ _ done => exact fun stuck => by cases done.symm.trans stuck
  have rolls : (enterRolling session.store.rtc.region session.cursor).segment ≠ .boot := by
    simp [enterRolling]
  refine ⟨older, queue, entered, ?_⟩
  simp only [Step.onSession, same, Session.enter, if_pos (And.intro phase.walks left), rolls,
    false_and, if_false]
  rfl

theorem map_record_split {records : List Record} {front back : List Slot}
    (split : records.map .record = front ++ back) :
    records = Slot.records front ++ Slot.records back ∧
      back = (Slot.records back).map .record := by
  obtain ⟨left, right, rfl, rfl, rfl⟩ := List.map_eq_append_iff.mp split
  simp

theorem BootPhase.next {session : Session} {journal : Journal} {gone rest new : List Record}
    {outSize : Nat} (wide : lineMax < outSize) (phase : BootPhase session journal gone rest new) :
    Continues session (Step.next.onSession outSize session) journal := by
  cases rest with
  | nil =>
      obtain ⟨older, queue, entered, same⟩ := phase.enter wide
      rw [same]
      refine entered.next wide ?_
      rintro ⟨-, -, -, short⟩
      have used : session.enter.cursor.remaining = session.enter.store.rtc.region.roll.used := rfl
      have fresh : session.enter.appended = 0 := rfl
      omega
  | cons entry more =>
      obtain ⟨middle, before⟩ := phase.before
      obtain ⟨walkedOver, left, pos, split, one, others, reached, shows⟩ :=
        before.next_record wide (by simp [walked, phase.walks]) (by simp [phase.walks])
          (by simp : Slot.records ((entry :: more).map .record) = entry :: more)
      have leftRecords := (map_record_split split).2
      rw [others] at leftRecords
      subst leftRecords
      have held := phase.refines.stored.choose_spec.choose_spec.2.2.held
      have ahead := phase.ahead
      rw [split, ← held.cap_eq] at ahead
      rw [split] at before
      have moved := ahead.step before reached
      rw [held.cap_eq] at moved
      simp only [phase.walks] at shows moved
      have later : BootPhase (Step.next.onSession outSize session) journal (gone ++ [entry]) more
          new := by
        refine ⟨phase.refines, ?_, ?_, ?_, ?_, ?_, ?_, ?_⟩
        · simp only [Step.onSession, shows]
        · rw [phase.boot_eq]
          simp
        · simpa only [Step.onSession, shows] using moved
        · simp [Step.onSession, shows, phase.bootShown_eq]
        · simp [Step.onSession, phase.bootHeld_eq]
        · simp [Step.onSession, shows, phase.rollingShown_eq]
        · simp [Step.onSession, shows, phase.rollingHeld_eq]
      refine ⟨.boot later, fun line member => ?_⟩
      simp only [Step.onSession, shows, if_true, Option.toList_some, List.append_nil,
        List.append_assoc, List.mem_append] at member
      rcases member with old | fresh | old
      · exact .inl (List.mem_append_left _ old)
      · refine .inr ⟨entry, ?_, (List.mem_singleton.mp fresh).symm⟩
        simp [phase.boot_eq]
      · exact .inl (List.mem_append_right _ old)

theorem DonePhase.next {session : Session} {journal : Journal} {outSize : Nat}
    (wide : lineMax < outSize) (phase : DonePhase session) :
    Continues session (Step.next.onSession outSize session) journal := by
  have step : LogStore.next session.store session.cursor outSize = (session.cursor, none) :=
    next_done wide phase.walks
  have stays : ¬ (session.cursor.segment = .boot) := by rw [phase.walks]; decide
  refine ⟨.done ⟨?_, ?_⟩, fun line member => .inl ?_⟩
  · simpa only [Step.onSession, step] using phase.walks
  · simpa only [Step.onSession, step, stays, false_and, if_false, Option.toList_none, ite_self,
      List.append_nil] using phase.complete
  · simpa [Step.onSession, step] using member

/-! ## Whole sessions -/

theorem Journal.mem_sink {journal : Journal} {record : Record}
    (member : record ∈ journal.boot ++ journal.rolling) (level : LogLevel) (line : Line)
    (ts : UInt32) :
    record ∈ (journal.sink level line ts).boot ++ (journal.sink level line ts).rolling := by
  rw [Journal.sink, Journal.route]
  rcases List.mem_append.mp member with boot | rolling <;> split_ifs <;> simp [*]

/-- One step keeps the phase of a session and shows lines of stored records only. -/
theorem session_step {session : Session} {journal : Journal} {outSize : Nat}
    (wide : lineMax < outSize) (phase : Phase session journal) (genuine : session.Genuine journal)
    (step : Step) (seen : step.isNext → ¬ session.Lapped) :
    Phase (step.onSession outSize session) (step.onJournal journal) ∧
      (step.onSession outSize session).Genuine (step.onJournal journal) := by
  cases step with
  | sink level line ts =>
      refine ⟨?_, fun shown member => ?_⟩
      · cases phase with
        | boot phase =>
            obtain ⟨new, after⟩ := phase.sink outSize level line ts
            exact .boot after
        | rolling phase =>
            obtain ⟨new, queue, after⟩ := phase.sink outSize level line ts
            exact .rolling after
        | done phase => exact .done ⟨phase.walks, phase.complete⟩
      · obtain ⟨record, stored, same⟩ := genuine shown member
        exact ⟨record, Journal.mem_sink stored level line ts, same⟩
  | next =>
      have continues : Continues session (Step.next.onSession outSize session) journal := by
        cases phase with
        | boot phase => exact phase.next wide
        | rolling phase => exact phase.next wide (seen rfl)
        | done phase => exact phase.next wide
      refine ⟨continues.1, fun shown member => ?_⟩
      rcases continues.2 shown member with old | fresh
      · exact genuine shown old
      · exact fresh

/-- A whole session keeps its phase and shows lines of stored records only. -/
theorem session_steps {session : Session} {journal : Journal} {outSize : Nat}
    (wide : lineMax < outSize) (phase : Phase session journal) (genuine : session.Genuine journal)
    (steps : List Step) (seen : Unlapped outSize session steps) :
    Phase (steps.foldl (Step.onSession outSize) session) (steps.foldl Step.onJournal journal) ∧
      (steps.foldl (Step.onSession outSize) session).Genuine
        (steps.foldl Step.onJournal journal) := by
  induction steps generalizing session journal with
  | nil => exact ⟨phase, genuine⟩
  | cons step steps induction =>
      obtain ⟨after, shows⟩ := session_step wide phase genuine step seen.1
      exact induction after shows seen.2

/-- A download while lines are logged. As long as the reader never calls `next` on an evicted record
that the test of `next` does not see, the download is coherent at every moment, and it shows lines
of stored records only. -/
theorem download_coherent (build : Build) (reason : UInt32) (rtc : Rtc)
    (invalid : rtc.region.valid = false) (events : List Event) (outSize : Nat)
    (wide : lineMax < outSize) (steps : List Step)
    (seen : Unlapped outSize
      (Session.start (events.foldl Event.onStore (begin build reason rtc))) steps) :
    let store := events.foldl Event.onStore (begin build reason rtc)
    let journal := events.foldl Event.onJournal (Journal.blank.begin build reason)
    let session := steps.foldl (Step.onSession outSize) (Session.start store)
    session.Coherent ∧ session.Genuine (steps.foldl Step.onJournal journal) := by
  have refines := events_refine (begin_refines (restarts_blank invalid) build reason) events
  obtain ⟨phase, genuine⟩ := session_steps wide (.boot (start_phase refines))
    (fun line member => by simp [Session.start] at member) steps seen
  exact ⟨phase.coherent, genuine⟩

/-- A line is logged between the first two calls of a download. -/
theorem download_coherent_once :
    let steps := [Step.next, .sink .error (.xs 20 (by decide)) 70000, .next, .next]
    let store := [].foldl Event.onStore (begin .unknown 1 .zero)
    let journal := [].foldl Event.onJournal (Journal.blank.begin .unknown 1)
    let session := steps.foldl (Step.onSession 224) (Session.start store)
    session.Coherent ∧ session.Genuine (steps.foldl Step.onJournal journal) :=
  download_coherent .unknown 1 .zero (by decide) [] 224 (by decide) _ (by decide +kernel)

/-- A full rolling segment, and a reader that has just returned its oldest record. A short line
evicts that record, a long one evicts the next and is written over it, and the segment is so full
that the test of `next` does not notice: the next call returns a line that was never logged. -/
theorem download_phantom_line :
    let long := Line.xs 160 (by decide)
    let events := List.replicate 11 (Event.sink .error long 131092) ++
      [.sink .error (.xs 128 (by decide)) 131092]
    let store := events.foldl Event.onStore (begin .unknown 1 .zero)
    let journal := events.foldl Event.onJournal (Journal.blank.begin .unknown 1)
    let steps := [Step.next, .next, .sink .error (.xs 52 (by decide)) 131092,
      .sink .error long 131092, .next]
    let session := steps.foldl (Step.onSession 224) (Session.start store)
    let logged := steps.foldl Step.onJournal journal
    let phantom := ascii "[2021161080][INFO] xxxxxxxxxxxxxxxxxxxx\n"
    session.cursor.overrun = false ∧ session.rollingShown.getLast? = some phantom ∧
      ∀ record ∈ logged.boot ++ logged.rolling, record.line ≠ phantom := by
  decide +kernel

end ModbusBridge.LogStore
