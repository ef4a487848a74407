import ModbusBridge.Library.StepSystem
import ModbusBridge.LogStore.Ranges

/-!
# When capture is open

`sink` keeps every line of the first minute, every warning and error, and every line of the ten
seconds after an error that re-arms the window. The caller's timestamp is the true time since the
boot, reduced to 32 bits. The window is compared with that timestamp as if it never wrapped, and the
rate limit counts from an error at time 0 that never was.
-/

namespace ModbusBridge.LogStore

open Memory ESPLogger

/-! ## The wrapping clock -/

/-- The timestamp at a true time in milliseconds. -/
def clock (time : Nat) : UInt32 := UInt32.ofNat time

theorem clock_lt_iff (time deadline : Nat) :
    clock time < clock deadline ↔ time % 2 ^ 32 < deadline % 2 ^ 32 := by
  rw [UInt32.lt_iff_toNat_lt, clock, clock, UInt32.toNat_ofNat', UInt32.toNat_ofNat']

theorem clock_lt_window (time : Nat) :
    clock time < logBootWindowMs ↔ time % 2 ^ 32 < 60000 :=
  clock_lt_iff time 60000

/-- The difference of two timestamps is no more than the time between them. -/
theorem le_of_clock_gap {since now gap : Nat} (order : since ≤ now) (small : gap < 2 ^ 32)
    (apart : clock now - clock since ≥ clock gap) : since + gap ≤ now := by
  rw [clock, clock, clock, ← UInt32.ofNat_sub order, ge_iff_le, UInt32.le_iff_toNat_le,
    UInt32.toNat_ofNat', UInt32.toNat_ofNat', Nat.mod_eq_of_lt small] at apart
  have bound := Nat.mod_le (now - since) (2 ^ 32)
  omega

/-- Without a wrap in between it is the time between them. -/
theorem clock_gap_of_le {since now gap : Nat} (apart : since + gap ≤ now) (bound : now < 2 ^ 32) :
    clock now - clock since ≥ clock gap := by
  rw [clock, clock, clock, ← UInt32.ofNat_sub (by omega), ge_iff_le, UInt32.le_iff_toNat_le,
    UInt32.toNat_ofNat', UInt32.toNat_ofNat', Nat.mod_eq_of_lt (by omega),
    Nat.mod_eq_of_lt (by omega)]
  omega

theorem clock_add (time delay : Nat) : clock time + clock delay = clock (time + delay) :=
  (UInt32.ofNat_add time delay).symm

/-! ## What is observed -/

/-- A call of `sink` at a true time. -/
structure Arrival where
  level : LogLevel
  message : Option CString
  time : Nat

/-- The call. -/
def Arrival.call (arrival : Arrival) : SinkCall where
  level := arrival.level
  message := arrival.message
  timestamp := clock arrival.time

/-- What a call does: whether it stores a record, whether it stores it in the boot segment, and
whether it re-arms the window. -/
structure Outcome where
  arrival : Arrival
  stored : Bool
  placed : Bool
  rearmed : Bool

/-- The sequence number tells whether a record was stored, the fields of the boot segment whether it
went there, and the capture variables whether the window was re-armed. -/
def observe (store : Store) (arrival : Arrival) : Outcome where
  arrival := arrival
  stored := (arrival.call.onStore store).rtc.region.seq != store.rtc.region.seq
  placed := arrival.call.Placed store
  rearmed := (arrival.call.onStore store).capture != store.capture

/-- The true times of the calls that have re-armed the window. -/
def rearms (outcomes : List Outcome) : List Nat :=
  (outcomes.filter Outcome.rearmed).map fun outcome => outcome.arrival.time

/-- The store with the time and the outcomes of the calls so far, oldest first. -/
structure Watch where
  store : Store
  time : Nat
  outcomes : List Outcome

/-- A call is watched. -/
def Watch.receive (watch : Watch) (arrival : Arrival) : Watch where
  store := arrival.call.onStore watch.store
  time := arrival.time
  outcomes := watch.outcomes ++ [observe watch.store arrival]

/-- Calls whose true times do not decrease. -/
def watchingFrom (watch : Watch) : StepSystem Watch Arrival where
  start := watch
  next watch arrival := if watch.time ≤ arrival.time then some (watch.receive arrival) else none

theorem watchingFrom_next (first : Watch) {watch : Watch} {arrival : Arrival}
    (order : watch.time ≤ arrival.time) :
    (watchingFrom first).next watch arrival = some (watch.receive arrival) :=
  if_pos order

/-- The calls after `begin`. -/
def watching (build : Build) (reason : UInt32) (rtc : Rtc) : StepSystem Watch Arrival :=
  watchingFrom ⟨begin build reason rtc, 0, []⟩

/-! ## What a call does -/

/-- A line that is neither a warning nor an error. -/
def Arrival.Minor (arrival : Arrival) : Prop := arrival.level = .info ∨ arrival.level = .debug

instance (arrival : Arrival) : Decidable arrival.Minor := inferInstanceAs (Decidable (_ ∨ _))

theorem observe_stored (store : Store) (arrival : Arrival) :
    (observe store arrival).stored = true ↔
      arrival.message.isSome = true ∧
        store.capture.shouldCapture arrival.level (clock arrival.time) = true := by
  obtain ⟨level, message, time⟩ := arrival
  simp only [observe, Arrival.call, SinkCall.onStore]
  cases message with
  | none => simp [sink]
  | some message =>
      rw [sink]
      dsimp only
      cases store.capture.shouldCapture level (clock time) with
      | false => simp
      | true =>
          obtain ⟨boot, roll, data, dropped, routed⟩ :=
            store.rtc.route_frame (lineHeader level message (clock time)) message (clock time)
          simp [Rtc.bumpSeq, routed]

theorem Arrival.Minor.capture {arrival : Arrival} (minor : arrival.Minor) (capture : Capture)
    (timestamp : UInt32) : capture.shouldCapture arrival.level timestamp = true ↔
      timestamp < logBootWindowMs ∨ timestamp < capture.untilMs := by
  rw [Capture.shouldCapture]
  rw [if_neg (by rcases minor with info | debug <;> simp only [*] <;> decide)]
  by_cases early : timestamp < logBootWindowMs <;> simp [early]

theorem onStore_capture (store : Store) (call : SinkCall) :
    (call.onStore store).capture =
      if call.message.isSome then store.capture.rearm call.level call.timestamp
      else store.capture := by
  obtain ⟨level, message, timestamp⟩ := call
  cases message with
  | none => rfl
  | some message =>
      rw [SinkCall.onStore, LogStore.sink]
      exact (if_pos rfl).symm

/-- Re-arming changes the time of the last re-arm, since the gap is not zero. -/
theorem observe_rearmed (store : Store) (arrival : Arrival) :
    (observe store arrival).rearmed = true ↔
      arrival.message.isSome = true ∧ arrival.level = .error ∧
        clock arrival.time - store.capture.lastRearmMs ≥ logErrorRearmMinGapMs := by
  simp only [observe, onStore_capture, Arrival.call, bne_iff_ne, ne_eq]
  cases arrival.message with
  | none => simp
  | some message =>
      simp only [Option.isSome_some, if_true, true_and]
      rw [Capture.rearm]
      split_ifs with due
      · refine iff_of_true (fun same => ?_) due
        have last := congrArg Capture.lastRearmMs same
        have gap := due.2
        dsimp only at last
        rw [← last, UInt32.sub_self] at gap
        exact absurd gap (by decide)
      · exact iff_of_false (not_not_intro rfl) due

theorem rearmed_capture {store : Store} {arrival : Arrival}
    (rearmed : (observe store arrival).rearmed = true) :
    (arrival.call.onStore store).capture =
      { untilMs := clock (arrival.time + 10000), lastRearmMs := clock arrival.time } := by
  obtain ⟨logged, due⟩ := (observe_rearmed store arrival).mp rearmed
  rw [onStore_capture, ← clock_add]
  exact (if_pos logged).trans (if_pos due)

/-! ## Runs -/

/-- The time of the last re-arm, or that of the boot. -/
def lastRearm (times : List Nat) : Nat := times.getLast?.getD 0

/-- The end of the last window. -/
def deadline (times : List Nat) : Nat :=
  match times.getLast? with
  | none => 0
  | some time => time + 10000

/-- The capture variables stand for the last re-arm. -/
structure Tracked (watch : Watch) : Prop where
  intact : ∃ boot, Intact watch.store.rtc boot
  untilMs_eq : watch.store.capture.untilMs = clock (deadline (rearms watch.outcomes))
  lastRearmMs_eq : watch.store.capture.lastRearmMs = clock (lastRearm (rearms watch.outcomes))
  late : ∀ time ∈ rearms watch.outcomes, 60000 ≤ time ∧ time ≤ watch.time
  spaced : (rearms watch.outcomes).Pairwise fun earlier later => earlier + 60000 ≤ later
  errors : ∀ outcome ∈ watch.outcomes, outcome.rearmed = true → outcome.arrival.level = .error

@[simp] theorem rearms_concat (outcomes : List Outcome) (outcome : Outcome) :
    rearms (outcomes ++ [outcome]) =
      rearms outcomes ++ if outcome.rearmed then [outcome.arrival.time] else [] := by
  unfold rearms
  cases rearmed : outcome.rearmed <;> simp [rearmed]

/-- The last re-arm is the latest one. -/
theorem le_lastRearm {times : List Nat} {time : Nat}
    (spaced : times.Pairwise fun earlier later => earlier + 60000 ≤ later)
    (member : time ∈ times) : time ≤ lastRearm times := by
  rcases List.eq_nil_or_concat times with rfl | ⟨before, last, rfl⟩
  · contradiction
  · simp only [List.concat_eq_append, List.mem_append, List.mem_singleton, lastRearm,
      List.getLast?_concat, Option.getD_some] at member ⊢
    rcases member with earlier | rfl
    · have apart := (List.pairwise_append.mp (List.concat_eq_append ▸ spaced)).2.2 time earlier last
        (List.mem_singleton_self last)
      omega
    · exact le_rfl

theorem Tracked.lastRearm_le {watch : Watch} (tracked : Tracked watch) :
    lastRearm (rearms watch.outcomes) ≤ watch.time := by
  rw [lastRearm]
  cases last : (rearms watch.outcomes).getLast? with
  | none => exact Nat.zero_le _
  | some time => exact (tracked.late time (List.mem_of_getLast? last)).2

@[simp] theorem lastRearm_concat (times : List Nat) (time : Nat) :
    lastRearm (times ++ [time]) = time := by
  simp [lastRearm]

@[simp] theorem deadline_concat (times : List Nat) (time : Nat) :
    deadline (times ++ [time]) = time + 10000 := by
  simp [deadline]

/-- A call that re-arms the window comes a minute after the last one that did, or after the boot. -/
theorem Tracked.rearm_late {watch : Watch} (tracked : Tracked watch) {arrival : Arrival}
    (order : watch.time ≤ arrival.time)
    (rearmed : (observe watch.store arrival).rearmed = true) :
    lastRearm (rearms watch.outcomes) + 60000 ≤ arrival.time := by
  obtain ⟨-, -, gap⟩ := (observe_rearmed _ _).mp rearmed
  rw [tracked.lastRearmMs_eq] at gap
  exact le_of_clock_gap (tracked.lastRearm_le.trans order) (by decide) gap

theorem Tracked.receive_errors {watch : Watch} (tracked : Tracked watch) (arrival : Arrival)
    {outcome : Outcome} (member : outcome ∈ (watch.receive arrival).outcomes)
    (rearmed : outcome.rearmed = true) : outcome.arrival.level = .error := by
  rcases List.mem_append.mp member with earlier | now
  · exact tracked.errors outcome earlier rearmed
  · rw [List.mem_singleton.mp now] at rearmed ⊢
    exact ((observe_rearmed _ _).mp rearmed).2.1

/-- One call keeps the capture variables in step with the re-arms. -/
theorem Tracked.receive {watch : Watch} (tracked : Tracked watch) {arrival : Arrival}
    (order : watch.time ≤ arrival.time) : Tracked (watch.receive arrival) := by
  obtain ⟨boot, intact⟩ := tracked.intact
  have after : ∃ boot, Intact (watch.receive arrival).store.rtc boot :=
    ⟨_, intact.onStore arrival.call⟩
  have errors (outcome : Outcome) (member : outcome ∈ (watch.receive arrival).outcomes) :=
    tracked.receive_errors arrival member
  have late (time : Nat) (member : time ∈ rearms watch.outcomes) :
      60000 ≤ time ∧ time ≤ arrival.time :=
    ⟨(tracked.late time member).1, (tracked.late time member).2.trans order⟩
  cases rearmed : (observe watch.store arrival).rearmed with
  | false =>
      have same : rearms (watch.receive arrival).outcomes = rearms watch.outcomes := by
        simp [Watch.receive, rearmed]
      have kept : (watch.receive arrival).store.capture = watch.store.capture := by
        simpa [observe, Watch.receive] using rearmed
      exact ⟨after, by rw [same, kept, tracked.untilMs_eq],
        by rw [same, kept, tracked.lastRearmMs_eq], same.symm ▸ late, same.symm ▸ tracked.spaced,
        errors⟩
  | true =>
      have longer : rearms (watch.receive arrival).outcomes =
          rearms watch.outcomes ++ [arrival.time] := by
        simp only [Watch.receive, rearms_concat, rearmed, if_true]
        rfl
      have capture : (watch.receive arrival).store.capture = _ := rearmed_capture rearmed
      have apart := tracked.rearm_late order rearmed
      refine ⟨after, by rw [longer, capture, deadline_concat],
        by rw [longer, capture, lastRearm_concat], ?_, ?_, errors⟩
      · rw [longer]
        intro time member
        rcases List.mem_append.mp member with earlier | now
        · exact late time earlier
        · rw [List.mem_singleton.mp now]
          exact ⟨by omega, le_rfl⟩
      · rw [longer, List.pairwise_append]
        refine ⟨tracked.spaced, List.pairwise_singleton _ _, fun earlier member later now => ?_⟩
        rw [List.mem_singleton.mp now]
        have before := le_lastRearm tracked.spaced member
        omega

theorem Tracked.begin (build : Build) (reason : UInt32) (rtc : Rtc) :
    Tracked ⟨begin build reason rtc, 0, []⟩ where
  intact := ⟨_, begin_intact build reason rtc⟩
  untilMs_eq := rfl
  lastRearmMs_eq := rfl
  late time member := by contradiction
  spaced := List.Pairwise.nil
  errors outcome member := by contradiction

theorem Tracked.reached {first watch : Watch} {Allowed : Watch → Arrival → Prop}
    (tracked : Tracked first) (reach : (watchingFrom first).Reaches Allowed watch) :
    Tracked watch := by
  refine reach.invariant tracked fun before arrival after tracked _ moves => ?_
  obtain ⟨order, received⟩ := Option.ite_none_right_eq_some.mp moves
  exact Option.some.inj received ▸ tracked.receive order

/-! ## When a line may be kept -/

/-- The line comes in the first minute, or within ten seconds after an error that has re-armed the
window. -/
def Open (outcomes : List Outcome) (time : Nat) : Prop :=
  time < 60000 ∨ ∃ error ∈ outcomes, error.rearmed = true ∧ error.arrival.level = .error ∧
    error.arrival.time ≤ time ∧ time < error.arrival.time + 10000

/-- Minor lines are stored only while capture is open, and the boot segment takes records of the
first minute only. -/
structure Outcome.Justified (outcome : Outcome) (earlier : List Outcome) : Prop where
  stored : outcome.arrival.Minor → outcome.stored = true → Open earlier outcome.arrival.time
  placed : outcome.placed = true → outcome.arrival.time < 60000

/-- Every call so far is justified by those before it, and re-arms lie a minute apart. -/
structure Proper (outcomes : List Outcome) : Prop where
  justified : ∀ earlier outcome later, outcomes = earlier ++ outcome :: later →
    outcome.Justified earlier
  spaced : (rearms outcomes).Pairwise fun earlier later => earlier + 60000 ≤ later

/-- The wrapped clock does not bring a line back into a window that is over: a minor line outside
the windows comes when the clock reads no less than the ends of both, and a record that comes after
the first minute when the clock reads less finds no room in the boot segment. -/
structure InStep (watch : Watch) (arrival : Arrival) : Prop where
  windows : arrival.Minor → arrival.message.isSome = true → 60000 ≤ arrival.time →
    deadline (rearms watch.outcomes) ≤ arrival.time →
      60000 ≤ arrival.time % 2 ^ 32 ∧
        deadline (rearms watch.outcomes) % 2 ^ 32 ≤ arrival.time % 2 ^ 32
  room : 60000 ≤ arrival.time → arrival.time % 2 ^ 32 < 60000 → ∀ message ∈ arrival.message,
    bootCap < watch.store.rtc.region.boot.writePos +
      (Record.ofText arrival.level message (clock arrival.time)).size

theorem deadline_of_mem {times : List Nat} {time : Nat} (member : time ∈ times) :
    deadline times = lastRearm times + 10000 := by
  rw [deadline, lastRearm]
  cases last : times.getLast? with
  | none => simp [List.getLast?_eq_none_iff.mp last] at member
  | some latest => rfl

/-- Capture is open in the first minute and until the end of the last window. -/
theorem Tracked.open_iff {watch : Watch} (tracked : Tracked watch) {time : Nat}
    (order : watch.time ≤ time) :
    Open watch.outcomes time ↔ time < 60000 ∨ time < deadline (rearms watch.outcomes) := by
  refine or_congr_right ⟨?_, fun before => ?_⟩
  · rintro ⟨error, member, rearmed, -, -, before⟩
    have counted : error.arrival.time ∈ rearms watch.outcomes :=
      List.mem_map_of_mem (List.mem_filter.mpr ⟨member, rearmed⟩)
    have latest := le_lastRearm tracked.spaced counted
    rw [deadline_of_mem counted]
    omega
  · rw [deadline] at before
    cases last : (rearms watch.outcomes).getLast? with
    | none => simp [last] at before
    | some latest =>
        have counted := List.mem_of_getLast? last
        obtain ⟨error, member, rfl⟩ := List.mem_map.mp counted
        obtain ⟨member, rearmed⟩ := List.mem_filter.mp member
        rw [last] at before
        exact ⟨error, member, rearmed, tracked.errors error member rearmed,
          (tracked.late _ counted).2.trans order, before⟩

/-- A minor line is stored while the wrapped clock reads less than the end of one of the windows. -/
theorem Tracked.stored_iff {watch : Watch} (tracked : Tracked watch) {arrival : Arrival}
    (minor : arrival.Minor) :
    (observe watch.store arrival).stored = true ↔ arrival.message.isSome = true ∧
      (arrival.time % 2 ^ 32 < 60000 ∨
        arrival.time % 2 ^ 32 < deadline (rearms watch.outcomes) % 2 ^ 32) := by
  rw [observe_stored, minor.capture, clock_lt_window, tracked.untilMs_eq, clock_lt_iff]

/-- A record goes to the boot segment while the wrapped clock reads less than a minute, if there is
room. -/
theorem Tracked.placed_iff {watch : Watch} (tracked : Tracked watch) (arrival : Arrival) :
    (observe watch.store arrival).placed = true ↔ arrival.time % 2 ^ 32 < 60000 ∧
      ∃ message ∈ arrival.message, watch.store.rtc.region.boot.writePos +
        (Record.ofText arrival.level message (clock arrival.time)).size ≤ bootCap := by
  obtain ⟨boot, intact⟩ := tracked.intact
  have used : watch.store.rtc.region.boot.writePos = Record.bytes boot := by
    rw [intact.held.writePos_eq, bytes_eq]
  have placed : (observe watch.store arrival).placed = true ↔ arrival.call.Placed watch.store :=
    decide_eq_true_iff
  rw [placed, intact.placed_iff, used, ← clock_lt_window]
  simp only [SinkCall.mem_offer]
  constructor
  · rintro ⟨record, ⟨window, message, here, rfl⟩, room⟩
    exact ⟨window, message, here, room⟩
  · rintro ⟨window, message, here, room⟩
    exact ⟨_, ⟨window, message, here, rfl⟩, room⟩

/-- A call is justified exactly if it is in step. -/
theorem Tracked.justified_iff {watch : Watch} (tracked : Tracked watch) {arrival : Arrival}
    (order : watch.time ≤ arrival.time) :
    (observe watch.store arrival).Justified watch.outcomes ↔ InStep watch arrival := by
  constructor
  · rintro ⟨stored, placed⟩
    constructor
    · intro minor logged late past
      have closed : ¬ Open watch.outcomes arrival.time := by
        rw [tracked.open_iff order]
        omega
      have missed : ¬ (observe watch.store arrival).stored = true :=
        fun kept => closed (stored minor kept)
      rw [tracked.stored_iff minor, and_iff_right logged] at missed
      omega
    · intro late early message here
      by_contra room
      have kept := (tracked.placed_iff arrival).mpr
        ⟨early, message, here, Nat.le_of_not_lt room⟩
      exact absurd (placed kept) (Nat.not_lt_of_le late)
  · rintro ⟨windows, room⟩
    constructor
    · intro (minor : arrival.Minor) kept
      obtain ⟨logged, early⟩ := (tracked.stored_iff minor).mp kept
      refine (tracked.open_iff order).mpr ?_
      by_contra closed
      have stays := windows minor logged (by omega) (by omega)
      omega
    · intro kept
      obtain ⟨early, message, here, fits⟩ := (tracked.placed_iff arrival).mp kept
      by_contra late
      exact absurd fits (Nat.not_le_of_lt (room (Nat.le_of_not_lt late) early message here))

/-- A run is proper as long as its calls are in step. -/
theorem proper_reached {build : Build} {reason : UInt32} {rtc : Rtc} {watch : Watch}
    (reach : (watching build reason rtc).Reaches InStep watch) : Proper watch.outcomes := by
  refine ⟨?_, ((Tracked.begin build reason rtc).reached reach).spaced⟩
  induction reach with
  | start =>
      intro earlier outcome later split
      simp [watching, watchingFrom] at split
  | @step before after arrival reach inStep moves induction =>
      intro earlier outcome later split
      obtain ⟨order, received⟩ := Option.ite_none_right_eq_some.mp moves
      rw [← Option.some.inj received] at split
      rcases List.eq_nil_or_concat later with rfl | ⟨rest, last, rfl⟩
      · obtain ⟨rfl, same⟩ := List.append_inj' split rfl
        obtain rfl := List.singleton_inj.mp same
        exact (((Tracked.begin build reason rtc).reached reach).justified_iff order).mpr inStep
      · have regrouped : before.outcomes ++ [observe before.store arrival] =
            (earlier ++ outcome :: rest) ++ [last] := by simpa [Watch.receive] using split
        exact induction earlier outcome rest (List.append_inj' regrouped rfl).1

/-- As long as every call is in step, lines are kept only while capture is open. Whatever the run
has been, the next call is justified exactly if it is in step. -/
theorem capture_opens (build : Build) (reason : UInt32) (rtc : Rtc) :
    (∀ watch, (watching build reason rtc).Reaches InStep watch → Proper watch.outcomes) ∧
      ∀ Allowed watch, (watching build reason rtc).Reaches Allowed watch →
        (rearms watch.outcomes).Pairwise (fun earlier later => earlier + 60000 ≤ later) ∧
          ∀ arrival, watch.time ≤ arrival.time →
            ((observe watch.store arrival).Justified watch.outcomes ↔ InStep watch arrival) := by
  refine ⟨fun watch reach => proper_reached reach, fun Allowed watch reach => ?_⟩
  have tracked := (Tracked.begin build reason rtc).reached reach
  exact ⟨tracked.spaced, fun arrival order => tracked.justified_iff order⟩

/-! ### Runs -/

instance (watch : Watch) (arrival : Arrival) : Decidable (InStep watch arrival) :=
  decidable_of_iff (_ ∧ _)
    ⟨fun ⟨windows, room⟩ => ⟨windows, room⟩, fun inStep => ⟨inStep.windows, inStep.room⟩⟩

/-- A line of five letters. -/
def Arrival.hello (level : LogLevel) (time : Nat) : Arrival :=
  ⟨level, some (.literal "hello" (by decide)), time⟩

/-- An early line, an error after a minute and what follows it. -/
theorem capture_opens_failure : ∃ watch,
    watch.outcomes.map Outcome.stored = [true, true, true, false] ∧ Proper watch.outcomes ∧
      ((observe watch.store (.hello .info 90000)).Justified watch.outcomes ↔
        InStep watch (.hello .info 90000)) := by
  have fresh : (watching .unknown 1 .zero).Reaches InStep _ := .start
  obtain ⟨watch, reach, facts⟩ := fresh.test
    [.hello .info 5, .hello .error 70000, .hello .info 75000, .hello .info 85000]
    (fun watch => watch.outcomes.map Outcome.stored = [true, true, true, false] ∧
      watch.time ≤ 90000) (by decide +kernel)
  obtain ⟨stored, order⟩ := of_decide_eq_true facts
  exact ⟨watch, stored, (capture_opens .unknown 1 .zero).1 watch reach,
    ((capture_opens .unknown 1 .zero).2 InStep watch reach).2 (.hello .info 90000) order⟩

/-- A line a second after the clock has wrapped goes to the boot segment. -/
theorem wrapped_line_stored : ∃ watch,
    (watching .unknown 1 .zero).Reaches (fun _ _ => True) watch ∧
      watch.outcomes.map Outcome.stored = [true] ∧ ¬ Proper watch.outcomes := by
  let start : Watch := ⟨begin .unknown 1 .zero, 0, []⟩
  let late := Arrival.hello .info (2 ^ 32 + 1000)
  have kept : (observe start.store late).stored = true ∧
      (observe start.store late).placed = true := by decide +kernel
  refine ⟨start.receive late, .step .start trivial (watchingFrom_next start (Nat.zero_le _)), ?_,
    fun proper => ?_⟩
  · simp [Watch.receive, start, kept.1]
  · have early : late.time < 60000 := (proper.justified [] _ [] rfl).placed kept.2
    exact absurd early (by decide)

/-! ## After an error -/

/-- Times so far from the wrap that no window reaches it. -/
def Timely (_ : Watch) (arrival : Arrival) : Prop := arrival.time + 10000 < 2 ^ 32

instance (watch : Watch) (arrival : Arrival) : Decidable (Timely watch arrival) :=
  inferInstanceAs (Decidable (_ < _))

/-- Every minor line that follows in the next ten seconds is stored. -/
def Recorded (watch : Watch) : Prop :=
  ∀ last, (watchingFrom watch).Reaches Timely last → ∀ arrival : Arrival,
    Timely last arrival → last.time ≤ arrival.time → arrival.time < watch.time + 10000 →
      arrival.Minor → arrival.message.isSome = true →
        (observe last.store arrival).stored = true

/-- An error a minute after the last re-arm, and a minute after the boot, re-arms the window. -/
theorem Tracked.rearms_at {watch : Watch} (tracked : Tracked watch) {message : CString}
    {time : Nat} (below : time < 2 ^ 32)
    (quiet : ∀ earlier ∈ rearms watch.outcomes, earlier + 60000 ≤ time) (late : 60000 ≤ time) :
    time ∈ rearms (watch.receive ⟨.error, some message, time⟩).outcomes := by
  have gap : lastRearm (rearms watch.outcomes) + 60000 ≤ time := by
    rw [lastRearm]
    cases last : (rearms watch.outcomes).getLast? with
    | none => simpa using late
    | some latest => exact quiet latest (List.mem_of_getLast? last)
  have rearmed : (observe watch.store ⟨.error, some message, time⟩).rearmed = true := by
    rw [observe_rearmed, tracked.lastRearmMs_eq]
    exact ⟨rfl, rfl, clock_gap_of_le gap below⟩
  simp only [Watch.receive, rearms_concat, rearmed, if_true]
  exact List.mem_append_right _ (List.mem_singleton_self _)

/-- What has re-armed the window stays known, and the time stays far from the wrap. -/
theorem rearms_reached {first last : Watch} {time : Nat}
    (reach : (watchingFrom first).Reaches Timely last) (member : time ∈ rearms first.outcomes)
    (below : first.time + 10000 < 2 ^ 32) :
    time ∈ rearms last.outcomes ∧ last.time + 10000 < 2 ^ 32 := by
  refine @StepSystem.Reaches.invariant _ _ _ _ _
    (fun last => time ∈ rearms last.outcomes ∧ last.time + 10000 < 2 ^ 32) reach ⟨member, below⟩ ?_
  rintro before arrival after ⟨known, -⟩ timely moves
  obtain ⟨-, received⟩ := Option.ite_none_right_eq_some.mp moves
  rw [← Option.some.inj received, Watch.receive, rearms_concat]
  exact ⟨List.mem_append_left _ known, timely⟩

/-- After an error between the two times, a line at the end of the first minute is lost: the error
has not re-armed the window. -/
theorem Tracked.not_recorded {watch : Watch} {message : CString} {time : Nat}
    (failed : Tracked (watch.receive ⟨.error, some message, time⟩)) (late : 50000 < time)
    (early : time < 60000) : ¬ Recorded (watch.receive ⟨.error, some message, time⟩) := by
  intro recorded
  have none : rearms (watch.receive ⟨.error, some message, time⟩).outcomes = [] := by
    rw [List.eq_nil_iff_forall_not_mem]
    intro earlier member
    obtain ⟨late, before⟩ := failed.late earlier member
    exact absurd (late.trans before) (Nat.not_le_of_lt early)
  have minor : (Arrival.mk .info (some message) 60000).Minor := .inl rfl
  have kept := recorded _ .start ⟨.info, some message, 60000⟩
    (show 60000 + 10000 < 2 ^ 32 by decide) (show time ≤ 60000 by omega)
    (show 60000 < time + 10000 by omega) minor rfl
  rw [show (watchingFrom (watch.receive ⟨.error, some message, time⟩)).start =
    watch.receive ⟨.error, some message, time⟩ from rfl, failed.stored_iff minor, none] at kept
  simp [deadline] at kept

/-- The aftermath of an error is recorded, unless the error comes in the last ten seconds of the
first minute. -/
theorem aftermath_recorded_iff (build : Build) (reason : UInt32) (rtc : Rtc) {watch : Watch}
    (reach : (watching build reason rtc).Reaches Timely watch) (message : CString) {time : Nat}
    (order : watch.time ≤ time) (below : time + 10000 < 2 ^ 32)
    (quiet : ∀ earlier ∈ rearms watch.outcomes, earlier + 60000 ≤ time) :
    Recorded (watch.receive ⟨.error, some message, time⟩) ↔ time ≤ 50000 ∨ 60000 ≤ time := by
  have tracked := (Tracked.begin build reason rtc).reached reach
  have failed : Tracked (watch.receive ⟨.error, some message, time⟩) := tracked.receive order
  constructor
  · intro recorded
    by_contra between
    exact failed.not_recorded (by omega) (by omega) recorded
  · intro apart last reach arrival timely follows within minor logged
    have within : arrival.time < time + 10000 := within
    have timely : arrival.time + 10000 < 2 ^ 32 := timely
    have reached := failed.reached reach
    rw [reached.stored_iff minor, Nat.mod_eq_of_lt (by omega)]
    refine ⟨logged, ?_⟩
    rcases apart with early | late
    · exact .inl (by omega)
    · obtain ⟨known, far⟩ :=
        rearms_reached reach (tracked.rearms_at (by omega) quiet late) below
      have latest := le_lastRearm reached.spaced known
      have bound := reached.lastRearm_le
      rw [deadline_of_mem known, Nat.mod_eq_of_lt (by omega)]
      exact .inr (by omega)

/-- An error after 70 seconds re-arms the window, and the next one, a minute and ten seconds later,
does so again. -/
theorem aftermath_recorded_iff_late :
    ∃ watch, (watching .unknown 1 .zero).Reaches Timely watch ∧
      rearms watch.outcomes = [70000] ∧ Recorded (watch.receive (.hello .error 140000)) := by
  have fresh : (watching .unknown 1 .zero).Reaches Timely _ := .start
  obtain ⟨watch, reach, facts⟩ := fresh.test [.hello .error 70000, .hello .info 75000]
    (fun watch => rearms watch.outcomes == [70000] && watch.time == 75000) (by decide +kernel)
  simp only [Bool.and_eq_true, beq_iff_eq] at facts
  obtain ⟨rearmed, now⟩ := facts
  refine ⟨watch, reach, rearmed, ?_⟩
  refine (aftermath_recorded_iff .unknown 1 .zero reach _ (by omega) (by decide) ?_).mpr
    (.inr (by decide))
  intro earlier member
  rw [rearmed, List.mem_singleton] at member
  omega

/-- The line that follows an error after 55 seconds by five seconds is not stored. -/
theorem aftermath_lost : ¬ ∀ (watch : Watch) (message : CString) (time : Nat),
    (watching .unknown 1 .zero).Reaches Timely watch → watch.time ≤ time →
      time + 10000 < 2 ^ 32 → (∀ earlier ∈ rearms watch.outcomes, earlier + 60000 ≤ time) →
        Recorded (watch.receive ⟨.error, some message, time⟩) := by
  intro claimed
  let start : Watch := ⟨begin .unknown 1 .zero, 0, []⟩
  have recorded := claimed start (.literal "hello" (by decide)) 55000 .start (Nat.zero_le _)
    (by decide) (fun _ member => by contradiction)
  have kept := recorded _ .start (.hello .info 60000) (show 60000 + 10000 < 2 ^ 32 by decide)
    (show 55000 ≤ 60000 by decide) (show 60000 < 55000 + 10000 by decide) (.inl rfl) rfl
  have lost : (observe (start.receive (.hello .error 55000)).store (.hello .info 60000)).stored =
      false := by decide +kernel
  exact Bool.false_ne_true (lost.symm.trans kept)

end ModbusBridge.LogStore
