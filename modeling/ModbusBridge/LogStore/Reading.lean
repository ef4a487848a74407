import ModbusBridge.LogStore.Queue

/-!
# What the reader does with the slots

`Before` says that a cursor stands before some slots of the segment that it walks. One call of
`next` skips filler, returns the first record, and leaves the cursor before the slots after it.
The fuel of the loop is accounted for by `Yields`.
-/

namespace ModbusBridge.LogStore

open Memory BlockRing

variable {region : Region} {data : Nat → UInt8} {cursor : Cursor} {r : Ring}
variable {slots : List Slot} {stop : Nat}

/-! ## The loop -/

/-- With `steps` turns or more, the loop of `next` gives the result. -/
def Yields (region : Region) (data : Nat → UInt8) (steps : Nat) (cursor : Cursor)
    (result : Cursor × Option Fetched) : Prop :=
  ∀ fuel, steps ≤ fuel → fetchLoop region data fuel cursor = result

theorem Yields.more {steps more : Nat} {result : Cursor × Option Fetched}
    (yields : Yields region data steps cursor result) (order : steps ≤ more) :
    Yields region data more cursor result :=
  fun fuel enough => yields fuel (order.trans enough)

theorem yields_done (done : cursor.segment = .done) :
    Yields region data 0 cursor (cursor, none) := by
  intro fuel _
  cases fuel with
  | zero => rfl
  | succ fuel => rw [fetchLoop, if_pos done]

theorem yields_fetched {after : Cursor} {fetched : Fetched} (walks : cursor.segment ≠ .done)
    (step : fetchStep region data cursor = (after, some fetched)) :
    Yields region data 1 cursor (after, some fetched) := by
  intro fuel enough
  obtain ⟨fuel, rfl⟩ := Nat.exists_eq_add_of_le' enough
  rw [fetchLoop, if_neg walks, step]

theorem yields_step {after : Cursor} {steps : Nat} {result : Cursor × Option Fetched}
    (walks : cursor.segment ≠ .done) (step : fetchStep region data cursor = (after, none))
    (yields : Yields region data steps after result) :
    Yields region data (steps + 1) cursor result := by
  intro fuel enough
  obtain ⟨fuel, rfl⟩ := Nat.exists_eq_add_of_le' (Nat.le_of_add_left_le enough)
  rw [fetchLoop, if_neg walks, step]
  exact yields fuel (by omega)

/-! ## Walking one segment -/

/-- The segment that the cursor walks. -/
def walked (region : Region) (cursor : Cursor) : Ring :=
  if cursor.segment = .boot then region.boot else region.roll

/-- The cursor stands before the given slots of a segment, and `stop` is where they end. -/
structure Before (data : Nat → UInt8) (r : Ring) (cursor : Cursor) (slots : List Slot)
    (stop : Nat) : Prop where
  addressable : r.Addressable
  inside : cursor.pos < r.cap
  chain : Chain (slotLayout r.cap) (cells data r) cursor.pos slots stop
  remaining_eq : cursor.remaining = slotBytes slots
  remaining_le : cursor.remaining ≤ r.used
  used_le : r.used ≤ r.cap

namespace Before

/-- The cursor behind the first slot. -/
theorem tail {slot : Slot} (before : Before data r cursor (slot :: slots) stop) :
    Before data r
      { cursor with
        pos := (cursor.pos + slot.size) % r.cap, remaining := cursor.remaining - slot.size }
      slots stop := by
  have remaining := before.remaining_eq
  have reach := before.remaining_le
  simp only [slotBytes_cons] at remaining
  cases before.chain with
  | cons held rest =>
      exact
        { addressable := before.addressable
          inside := Nat.mod_lt _ (Nat.lt_of_lt_of_le (by decide) before.addressable.1)
          chain := rest
          remaining_eq := by simp only; omega
          remaining_le := by simp only; omega
          used_le := before.used_le }

theorem size_pos {slot : Slot} (before : Before data r cursor (slot :: slots) stop) :
    0 < slot.size := by
  cases before.chain with
  | cons held rest => exact (slotLayout r.cap).size_pos held

/-- What the loop subtracts for the first slot. -/
theorem takeOff_eq {slot : Slot} (before : Before data r cursor (slot :: slots) stop) :
    takeOff cursor.remaining slot.size = cursor.remaining - slot.size := by
  have remaining := before.remaining_eq
  have reach := before.remaining_le
  have used := before.used_le
  have geometry := before.addressable
  simp only [slotBytes_cons, Ring.Addressable, logStoreDataBytes] at remaining geometry
  rw [takeOff]
  split
  · exact sub16_of_le (by omega) (by omega)
  · omega

theorem length_le (before : Before data r cursor slots stop) :
    slots.length ≤ cursor.remaining := by
  rw [before.remaining_eq]
  exact before.chain.length_le_total

/-- One turn of the loop on filler: the cursor moves behind it. -/
theorem filler_step {bytes : Nat} (before : Before data r cursor (.filler bytes :: slots) stop)
    (ring : walked region cursor = r) :
    fetchStep region data cursor =
      ({ cursor with
          pos := (cursor.pos + bytes) % r.cap, remaining := cursor.remaining - bytes }, none) := by
  have positive := before.size_pos
  have remaining := before.remaining_eq
  have reach := before.remaining_le
  have used := before.used_le
  have geometry := before.addressable
  have taken := before.takeOff_eq
  simp only [slotBytes_cons, Slot.size, Ring.Addressable, logStoreDataBytes, hdr] at *
  cases before.chain with
  | cons held rest =>
      have end_eq : cursor.pos + bytes = r.cap := held.1
      have gap : sub16 r.cap cursor.pos = bytes := by
        rw [sub16_of_le (by omega) (by omega)]
        omega
      rw [walked] at ring
      rw [fetchStep, ring]
      simp only [gap, taken, end_eq, Nat.mod_self]
      rw [if_neg (by omega), if_neg (by omega)]
      split
      · rfl
      · rw [if_pos (flags_of_filler before.addressable held (by simp only [hdr] at *; omega))]

/-- What the loop copies out of a record slot. -/
def fetchedOf (segment : Section) (entry : Record) : Fetched where
  header := entry.header
  body := entry.body
  fromSegment := segment

/-- One turn of the loop on a record: it is copied out, and the cursor moves behind it. -/
theorem record_step {entry : Record} (before : Before data r cursor (.record entry :: slots) stop)
    (ring : walked region cursor = r) :
    fetchStep region data cursor =
      ({ cursor with
          pos := (cursor.pos + entry.size) % r.cap, remaining := cursor.remaining - entry.size },
        some (fetchedOf cursor.segment entry)) := by
  have bounds := entry.size_bounds
  have remaining := before.remaining_eq
  have reach := before.remaining_le
  have geometry := before.addressable
  have taken := before.takeOff_eq
  simp only [slotBytes_cons, Slot.size, Ring.Addressable, logStoreDataBytes] at *
  cases before.chain with
  | cons held rest =>
      have inside : cursor.pos + entry.size ≤ r.cap := held.1
      have spelled := holds_cells.mp held.2
      rw [Record.encode, List.append_assoc, holds_append, holds_append] at spelled
      have copied : slice data (r.base + cursor.pos + hdr) entry.header.len = entry.body :=
        spelled.2.1.slice_eq
      have eight : hdr = 8 := rfl
      have wrapped := Nat.mod_lt (cursor.pos + entry.size) (show 0 < r.cap by omega)
      rw [walked] at ring
      rw [fetchStep, ring]
      simp only [readHdr_of_record before.addressable held, entry.need_eq, taken, copied]
      rw [if_neg (by omega), if_neg (by omega), if_neg (by omega),
        if_neg (by simpa [Record.header] using entry.noFiller),
        if_neg (by simpa [Record.header] using entry.short), u16_of_lt (by omega)]
      rfl

/-- The loop skips filler and copies out the first record. -/
theorem yields_record {entry : Record} {more : List Record}
    (before : Before data r cursor slots stop) (ring : walked region cursor = r)
    (walks : cursor.segment ≠ .done) (records : Slot.records slots = entry :: more) :
    ∃ gone rest pos, slots = gone ++ rest ∧ Slot.records gone = [entry] ∧
      Slot.records rest = more ∧
      Before data r { cursor with pos, remaining := slotBytes rest } rest stop ∧
      Yields region data slots.length cursor
        ({ cursor with pos, remaining := slotBytes rest },
          some (fetchedOf cursor.segment entry)) := by
  induction slots generalizing cursor with
  | nil => simp at records
  | cons slot slots induction =>
      have behind := before.tail
      have left := behind.remaining_eq
      simp only at left
      cases slot with
      | record first =>
          obtain ⟨rfl, rfl⟩ : first = entry ∧ Slot.records slots = more := by simpa using records
          rw [left] at behind
          have step := before.record_step ring
          simp only [Slot.size] at left behind
          rw [left] at step
          exact ⟨[.record first], slots, _, rfl, rfl, rfl, behind,
            (yields_fetched walks step).more (by simp)⟩
      | filler bytes =>
          obtain ⟨gone, rest, pos, split, one, others, reached, yields⟩ :=
            induction behind ring walks (by simpa using records)
          exact ⟨.filler bytes :: gone, rest, pos, by rw [split]; rfl, by simpa using one, others,
            reached, yields_step walks (before.filler_step ring) yields⟩

/-- The loop walks to the end of a segment without further records. -/
theorem yields_exhausted (before : Before data r cursor slots stop)
    (ring : walked region cursor = r) (walks : cursor.segment ≠ .done)
    (records : Slot.records slots = []) :
    ∃ pos, ∀ steps result, Yields region data steps { cursor with pos, remaining := 0 } result →
      Yields region data (slots.length + steps) cursor result := by
  induction slots generalizing cursor with
  | nil =>
      have left : cursor.remaining = 0 := before.remaining_eq
      refine ⟨cursor.pos, fun steps result yields => ?_⟩
      rw [← left] at yields
      simpa using yields
  | cons slot slots induction =>
      cases slot with
      | record first => simp at records
      | filler bytes =>
          obtain ⟨pos, goesOn⟩ := induction before.tail ring walks (by simpa using records)
          refine ⟨pos, fun steps result yields => ?_⟩
          have longer := yields_step walks (before.filler_step ring) (goesOn steps result yields)
          exact longer.more (by rw [List.length_cons]; omega)

end Before

/-! ## Changing segments -/

/-- The cursor at the moment when it enters the rolling segment. -/
def enterRolling (region : Region) (cursor : Cursor) : Cursor :=
  { cursor with
    segment := .rolling, pos := region.roll.readStart, remaining := region.roll.used }

theorem Queued.before (queued : Queued data region.roll slots) (cursor : Cursor) :
    Before data region.roll (enterRolling region cursor) slots region.roll.writePos where
  addressable := queued.addressable
  inside := by rw [queued.cap_eq]; exact queued.start_lt
  chain := by rw [queued.cap_eq]; exact queued.chain
  remaining_eq := queued.used_eq
  remaining_le := le_rfl
  used_le := by rw [queued.cap_eq]; exact queued.used_le

/-- Without records left in the boot segment, the loop goes on in the rolling segment. -/
theorem Before.yields_enter {steps : Nat} {result : Cursor × Option Fetched}
    (before : Before data region.boot cursor slots stop) (walks : cursor.segment = .boot)
    (records : Slot.records slots = [])
    (yields : Yields region data steps (enterRolling region cursor) result) :
    Yields region data (slots.length + (steps + 1)) cursor result := by
  have ring : walked region cursor = region.boot := by simp [walked, walks]
  obtain ⟨pos, goesOn⟩ := before.yields_exhausted ring (by simp [walks]) records
  refine goesOn _ _ (yields_step (by simp [walks]) ?_ yields)
  simp [fetchStep, walks, enterRolling]

/-- Without records left in the rolling segment, the loop ends. -/
theorem Before.yields_leave (before : Before data region.roll cursor slots stop)
    (walks : cursor.segment = .rolling) (records : Slot.records slots = []) :
    ∃ pos, Yields region data (slots.length + 1) cursor
      ({ cursor with pos, remaining := 0, segment := .done }, none) := by
  have ring : walked region cursor = region.roll := by simp [walked, walks]
  obtain ⟨pos, goesOn⟩ := before.yields_exhausted ring (by simp [walks]) records
  refine ⟨pos, goesOn _ _ (yields_step (by simp [walks]) ?_ (yields_done rfl))⟩
  simp [fetchStep, walks]

/-! ## One call -/

/-- The longest line that `next` formats. -/
def lineMax : Nat := 1 + 10 + 2 + 7 + 2 + logStoreMaxMsg + 1

theorem Record.line_length_le (record : Record) : record.line.length ≤ lineMax := by
  have stamp : (decimal record.ts.toNat).length ≤ 10 :=
    decimal_length_le (by decide) (record.ts.toNat_lt.trans (by decide))
  have name := Record.levelShown_length_le record.level
  have body := record.short
  have bracket : (ascii "[").length = 1 := rfl
  have middle : (ascii "][").length = 2 := rfl
  have space : (ascii "] ").length = 2 := rfl
  simp only [Record.line, List.length_append, List.length_singleton, lineMax]
  omega

variable {store : Store} {outSize : Nat}

/-- A call that finds a record returns its line. -/
theorem next_of_yields {steps : Nat} {after : Cursor} {segment : Section} {entry : Record}
    (wide : lineMax < outSize)
    (yields : Yields store.rtc.region store.rtc.data steps cursor
      (after, some (Before.fetchedOf segment entry)))
    (enough : steps ≤ cursor.remaining + store.rtc.region.roll.used + 3) :
    next store cursor outSize = ({ after with recordSegment := segment }, some entry.line) := by
  have short := entry.line_length_le
  have whole : entry.line.take (outSize - 1) = entry.line := List.take_of_length_le (by omega)
  rw [next, if_neg (by unfold lineMax at wide; omega)]
  simp only [yields _ enough, Before.fetchedOf, Record.header, entry.render_eq_line, whole]

/-- A call that finds no record returns nothing. -/
theorem next_of_yields_none {steps : Nat} {after : Cursor} (wide : lineMax < outSize)
    (yields : Yields store.rtc.region store.rtc.data steps cursor (after, none))
    (enough : steps ≤ cursor.remaining + store.rtc.region.roll.used + 3) :
    next store cursor outSize = (after, none) := by
  rw [next, if_neg (by unfold lineMax at wide; omega)]
  simp only [yields _ enough]

/-- A call on a cursor with a record before it returns the line of that record. -/
theorem Before.next_record {entry : Record} {more : List Record} (wide : lineMax < outSize)
    (before : Before store.rtc.data r cursor slots stop)
    (ring : walked store.rtc.region cursor = r) (walks : cursor.segment ≠ .done)
    (records : Slot.records slots = entry :: more) :
    ∃ gone rest pos, slots = gone ++ rest ∧ Slot.records gone = [entry] ∧
      Slot.records rest = more ∧
      Before store.rtc.data r
        { cursor with pos, remaining := slotBytes rest, recordSegment := cursor.segment } rest
          stop ∧
      next store cursor outSize =
        ({ cursor with pos, remaining := slotBytes rest, recordSegment := cursor.segment },
          some entry.line) := by
  obtain ⟨gone, rest, pos, split, one, others, reached, yields⟩ :=
    before.yields_record ring walks records
  have enough := before.length_le
  exact ⟨gone, rest, pos, split, one, others, ⟨reached.1, reached.2, reached.3, reached.4,
    reached.5, reached.6⟩, next_of_yields wide yields (by omega)⟩

/-- A call on a cursor at the end of the rolling segment returns nothing. -/
theorem Before.next_leave (wide : lineMax < outSize)
    (before : Before store.rtc.data store.rtc.region.roll cursor slots stop)
    (walks : cursor.segment = .rolling) (records : Slot.records slots = []) :
    ∃ pos, next store cursor outSize =
      ({ cursor with pos, remaining := 0, segment := .done }, none) := by
  obtain ⟨pos, yields⟩ := before.yields_leave walks records
  have enough := before.length_le
  exact ⟨pos, next_of_yields_none wide yields (by omega)⟩

/-- A call on a cursor with nothing left of the rolling segment returns nothing. -/
theorem next_finished (wide : lineMax < outSize) (walks : cursor.segment = .rolling)
    (left : cursor.remaining = 0) :
    next store cursor outSize = ({ cursor with segment := .done }, none) := by
  refine next_of_yields_none wide (yields_step (by simp [walks]) ?_ (yields_done rfl)) (by omega)
  simp [fetchStep, walks, left]

/-- A call on a cursor with more left of the rolling segment than is in use reports an overrun. -/
theorem next_lapped (wide : lineMax < outSize) (walks : cursor.segment = .rolling)
    (lapped : store.rtc.region.roll.used < cursor.remaining) :
    next store cursor outSize =
      ({ cursor with overrun := true, remaining := 0, segment := .done }, none) := by
  have some_left : cursor.remaining ≠ 0 := by omega
  have overruns : fetchStep store.rtc.region store.rtc.data cursor =
      ({ cursor with overrun := true, remaining := 0 }, none) := by
    simp [fetchStep, walks, some_left, lapped]
  refine next_of_yields_none wide (yields_step (by simp [walks]) overruns
    (yields_step (by simp [walks]) ?_ (yields_done rfl))) (by omega)
  simp [fetchStep, walks]

/-- A call on a cursor that is done returns nothing. -/
theorem next_done (wide : lineMax < outSize) (done : cursor.segment = .done) :
    next store cursor outSize = (cursor, none) :=
  next_of_yields_none wide (yields_done done) (by omega)

/-- A call on a cursor at the end of the boot segment is one on the cursor that enters the rolling
segment. -/
theorem Before.next_enter {queue : List Slot} (wide : lineMax < outSize)
    (before : Before store.rtc.data store.rtc.region.boot cursor slots stop)
    (walks : cursor.segment = .boot) (records : Slot.records slots = [])
    (queued : Queued store.rtc.data store.rtc.region.roll queue) :
    next store cursor outSize = next store (enterRolling store.rtc.region cursor) outSize := by
  have entered := queued.before cursor
  have walksRolling : (enterRolling store.rtc.region cursor).segment = .rolling := rfl
  have here := before.length_le
  have there := entered.length_le
  have remaining : (enterRolling store.rtc.region cursor).remaining = store.rtc.region.roll.used :=
    rfl
  cases found : Slot.records queue with
  | nil =>
      obtain ⟨pos, yields⟩ := entered.yields_leave walksRolling found
      rw [next_of_yields_none wide (before.yields_enter walks records yields) (by omega),
        next_of_yields_none wide yields (by omega)]
  | cons entry more =>
      have ring : walked store.rtc.region (enterRolling store.rtc.region cursor) =
          store.rtc.region.roll := by simp [walked, walksRolling]
      obtain ⟨gone, rest, pos, -, -, -, -, yields⟩ :=
        entered.yields_record ring (by simp [walksRolling]) found
      rw [next_of_yields wide (before.yields_enter walks records yields) (by omega),
        next_of_yields wide yields (by omega)]

/-! ## A download without a concurrent writer -/

theorem Before.drainFrom_rolling (wide : lineMax < outSize)
    (before : Before store.rtc.data store.rtc.region.roll cursor slots stop)
    (walks : cursor.segment = .rolling) (calls : Nat) (enough : slots.length < calls) :
    ∃ last, drainFrom store outSize calls cursor =
        some ((Slot.records slots).map fun entry => (Section.rolling, entry.line), last) ∧
      last.overrun = cursor.overrun := by
  induction calls generalizing cursor slots with
  | zero => omega
  | succ calls induction =>
      cases found : Slot.records slots with
      | nil =>
          obtain ⟨pos, ends⟩ := before.next_leave wide walks found
          exact ⟨{ cursor with pos, remaining := 0, segment := .done },
            by rw [drainFrom, ends]; rfl, rfl⟩
      | cons entry more =>
          obtain ⟨gone, rest, pos, split, one, others, reached, step⟩ :=
            before.next_record wide (by simp [walked, walks]) (by simp [walks]) found
          have nonempty : gone ≠ [] := by rintro rfl; simp at one
          have shorter : rest.length < calls := by
            have := List.length_pos_iff.mpr nonempty
            rw [split, List.length_append] at enough
            omega
          obtain ⟨last, drained, overrun⟩ := induction reached walks shorter
          refine ⟨last, ?_, overrun⟩
          rw [drainFrom, step]
          dsimp only
          rw [drained, others, walks]
          rfl

theorem Before.drainFrom_boot {queue : List Slot} (wide : lineMax < outSize)
    (before : Before store.rtc.data store.rtc.region.boot cursor slots stop)
    (queued : Queued store.rtc.data store.rtc.region.roll queue)
    (walks : cursor.segment = .boot) (calls : Nat)
    (enough : slots.length + queue.length < calls) :
    ∃ last, drainFrom store outSize calls cursor =
        some ((Slot.records slots).map (fun entry => (Section.boot, entry.line)) ++
          (Slot.records queue).map fun entry => (Section.rolling, entry.line), last) ∧
      last.overrun = cursor.overrun := by
  induction calls generalizing cursor slots with
  | zero => omega
  | succ calls induction =>
      cases found : Slot.records slots with
      | nil =>
          obtain ⟨last, drained, overrun⟩ :=
            (queued.before cursor).drainFrom_rolling wide rfl (calls + 1) (by omega)
          refine ⟨last, ?_, overrun⟩
          rw [drainFrom] at drained ⊢
          rw [before.next_enter wide walks found queued]
          simpa using drained
      | cons entry more =>
          obtain ⟨gone, rest, pos, split, one, others, reached, step⟩ :=
            before.next_record wide (by simp [walked, walks]) (by simp [walks]) found
          have nonempty : gone ≠ [] := by rintro rfl; simp at one
          have shorter : rest.length + queue.length < calls := by
            have := List.length_pos_iff.mpr nonempty
            rw [split, List.length_append] at enough
            omega
          obtain ⟨last, drained, overrun⟩ := induction reached walks shorter
          refine ⟨last, ?_, overrun⟩
          rw [drainFrom, step]
          dsimp only
          rw [drained, others, walks]
          rfl

theorem BootHeld.before {records : List Record}
    (held : BootHeld store.rtc.data store.rtc.region.boot records) :
    Before store.rtc.data store.rtc.region.boot (openRead store) (records.map .record)
      (store.rtc.region.boot.writePos % bootCap) where
  addressable := held.addressable
  inside := by simp only [openRead, held.readStart_eq, held.cap_eq]; decide
  chain := by simpa only [openRead, held.readStart_eq, held.cap_eq] using held.chain
  remaining_eq := by simp only [openRead, held.used_eq, held.writePos_eq]
  remaining_le := le_rfl
  used_le := by rw [held.used_eq, held.cap_eq]; exact held.writePos_le

/-- A download without a concurrent writer returns the records of the boot segment, then those of
the rolling segment, and reports no overrun. -/
theorem drain_eq {records : List Record} {queue : List Slot} (wide : lineMax < outSize)
    (held : BootHeld store.rtc.data store.rtc.region.boot records)
    (queued : Queued store.rtc.data store.rtc.region.roll queue) :
    ∃ last, drain store outSize =
        some (records.map (fun entry => (Section.boot, entry.line)) ++
          (Slot.records queue).map fun entry => (Section.rolling, entry.line), last) ∧
      last.overrun = false := by
  have bootLength := held.before.length_le
  have queueLength := (queued.before (openRead store)).length_le
  have bootUsed : (openRead store).remaining = store.rtc.region.boot.used := rfl
  have rollUsed : (enterRolling store.rtc.region (openRead store)).remaining =
    store.rtc.region.roll.used := rfl
  rw [drain]
  simpa [openRead] using held.before.drainFrom_boot wide queued rfl
    (store.rtc.region.boot.used + store.rtc.region.roll.used + 1) (by omega)

end ModbusBridge.LogStore
