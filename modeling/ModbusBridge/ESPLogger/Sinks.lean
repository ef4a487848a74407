import Mathlib.Data.List.Nodup
import ModbusBridge.ESPLogger
import ModbusBridge.Library.StepSystem

/-!
# The logger's sinks

`print` walks the sinks without a lock, on whatever task has logged, while a sink may be added or
removed. Every store and every load is a step of its own. One caller at a time changes the sinks;
any number of calls of `print` are under way.
-/

namespace ModbusBridge.ESPLogger

/-! ## The registry -/

/-- `LOG_MAX_SINKS`. -/
def logMaxSinks : Nat := 2

/-- The static members of the class. -/
structure Logger (Sink : Type*) where
  currentLevel : LogLevel
  logCallbacks : Nat → Option Sink
  sinkCount : Nat

/-- Where a call that changes the sinks stands. -/
inductive Registration (Sink : Type*)
  | idle
  /-- `addLogCallback` has written the slot. -/
  | exposing
  /-- `removeLogCallback(callback)` has shrunk the count. -/
  | moving (i last : Nat)
  /-- It has written the slot `i`. -/
  | dropping (last : Nat)
  /-- `removeLogCallback()` has written the slots below `i`; the callback is added afterwards. -/
  | clearing (i : Nat) (callback : Option Sink)

namespace Logger

variable {Sink : Type*} [DecidableEq Sink] (logger : Logger Sink)

/-- `addLogCallback`, to its first store. -/
def addLogCallback (callback : Option Sink) : Logger Sink × Registration Sink :=
  match callback with
  | none => (logger, .idle)
  | some sink =>
      if ∃ i < logger.sinkCount, logger.logCallbacks i = some sink then (logger, .idle)
      else if logger.sinkCount ≥ logMaxSinks then (logger, .idle)
      else
        ({ logger with
          logCallbacks := Function.update logger.logCallbacks logger.sinkCount (some sink) },
          .exposing)

/-- `removeLogCallback(callback)`, to its first store. -/
def removeLogCallback (callback : Option Sink) : Logger Sink × Registration Sink :=
  match (List.range logger.sinkCount).find? fun i => logger.logCallbacks i = callback with
  | none => (logger, .idle)
  | some i =>
      let last := logger.sinkCount - 1
      ({ logger with sinkCount := last }, .moving i last)

/-- `setLogCallback`, to the first store of the `removeLogCallback()` that it starts with. -/
def setLogCallback (callback : Option Sink) : Logger Sink × Registration Sink :=
  ({ logger with sinkCount := 0 }, .clearing 0 callback)

/-- The next store of a call that changes the sinks. -/
def store : Registration Sink → Logger Sink × Registration Sink
  | .idle => (logger, .idle)
  | .exposing => ({ logger with sinkCount := logger.sinkCount + 1 }, .idle)
  | .moving i last =>
      ({ logger with
        logCallbacks := Function.update logger.logCallbacks i (logger.logCallbacks last) },
        .dropping last)
  | .dropping last =>
      ({ logger with logCallbacks := Function.update logger.logCallbacks last none }, .idle)
  | .clearing i callback =>
      if i < logMaxSinks then
        ({ logger with logCallbacks := Function.update logger.logCallbacks i none },
          .clearing (i + 1) callback)
      else logger.addLogCallback callback

end Logger

/-! ## Printing -/

/-- Where a call of `print` stands. -/
inductive Print (Sink : Type*)
  | waiting
  /-- The level is not too verbose. -/
  | entered
  | walking (count i : Nat) (called : List Sink)
  /-- A slot has been loaded. -/
  | holding (count i : Nat) (cb : Option Sink) (called : List Sink)
  | finished (called : List Sink)
  deriving DecidableEq

/-- The next step of `print`. -/
def Logger.print {Sink : Type*} (logger : Logger Sink) (level : LogLevel) :
    Print Sink → Print Sink
  | .waiting => if level.code ≤ logger.currentLevel.code then .entered else .finished []
  | .entered => .walking logger.sinkCount 0 []
  | .walking count i called =>
      if i < count then .holding count i (logger.logCallbacks i) called else .finished called
  | .holding count i cb called => .walking count (i + 1) (called ++ cb.toList)
  | .finished called => .finished called

/-! ## The system -/

/-- A call that removes sinks is under way. -/
def Registration.removes {Sink : Type*} : Registration Sink → Bool
  | idle | exposing => false
  | _ => true

/-- The call has taken the count and goes on. -/
def Print.underway {Sink : Type*} : Print Sink → Bool
  | walking .. | holding .. => true
  | _ => false

/-- The logger with the calls that are under way. -/
structure Printing (Sink Task : Type*) where
  logger : Logger Sink
  registration : Registration Sink
  prints : Task → Print Sink
  /-- The sinks below the count when a call took it. -/
  due : Task → List Sink
  /-- Sinks were removed since then. -/
  disturbed : Task → Bool

inductive Step (Sink Task : Type*)
  | setLevel (level : LogLevel)
  | addLogCallback (callback : Option Sink)
  | removeLogCallback (callback : Option Sink)
  | setLogCallback (callback : Option Sink)
  | store
  | print (task : Task)

/-- The sinks below the count. -/
def Logger.registered {Sink : Type*} (logger : Logger Sink) : List Sink :=
  (List.range logger.sinkCount).filterMap logger.logCallbacks

namespace Printing

variable {Sink Task : Type*} [DecidableEq Sink] [DecidableEq Task]

/-- Sinks are about to be removed. -/
def disturb (state : Printing Sink Task) (changed : Logger Sink × Registration Sink) :
    Printing Sink Task :=
  { state with
    logger := changed.1
    registration := changed.2
    disturbed := fun task => state.disturbed task || (state.prints task).underway }

/-- A call of `print` takes a step. -/
def advance (state : Printing Sink Task) (level : LogLevel) (task : Task) :
    Printing Sink Task :=
  let moved :=
    { state with
      prints := Function.update state.prints task
        (state.logger.print level (state.prints task)) }
  match state.prints task with
  | .entered =>
      { moved with
        due := Function.update state.due task state.logger.registered
        disturbed := Function.update state.disturbed task state.registration.removes }
  | _ => moved

/-- The next state. -/
def next (levels : Task → LogLevel) (state : Printing Sink Task) :
    Step Sink Task → Option (Printing Sink Task)
  | .setLevel level => some { state with logger := { state.logger with currentLevel := level } }
  | .addLogCallback callback =>
      match state.registration with
      | .idle =>
          let changed := state.logger.addLogCallback callback
          some { state with logger := changed.1, registration := changed.2 }
      | _ => none
  | .removeLogCallback callback =>
      match state.registration with
      | .idle => some (state.disturb (state.logger.removeLogCallback callback))
      | _ => none
  | .setLogCallback callback =>
      match state.registration with
      | .idle => some (state.disturb (state.logger.setLogCallback callback))
      | _ => none
  | .store =>
      let changed := state.logger.store state.registration
      some { state with logger := changed.1, registration := changed.2 }
  | .print task => some (state.advance (levels task) task)

end Printing

/-- Calls of `print` for lines of the given levels, and calls that change the sinks. -/
def printing {Sink Task : Type*} [DecidableEq Sink] [DecidableEq Task]
    (levels : Task → LogLevel) : StepSystem (Printing Sink Task) (Step Sink Task) where
  start := ⟨⟨.info, fun _ => none, 0⟩, .idle, fun _ => .waiting, fun _ => [], fun _ => false⟩
  next := Printing.next levels

/-! ## The slots -/

variable {Sink Task : Type*} {logger : Logger Sink} {registration : Registration Sink}
  {sinks due : List Sink} {count : Nat}

/-- The slots hold these sinks, in this order, and nothing else. -/
structure Holds (logCallbacks : Nat → Option Sink) (sinks : List Sink) : Prop where
  slots : ∀ i, logCallbacks i = sinks[i]?
  distinct : sinks.Nodup
  few : sinks.length ≤ logMaxSinks

/-- What the slots hold while a call changes the sinks. -/
def Sound (logger : Logger Sink) : Registration Sink → Prop
  | .idle => ∃ sinks, Holds logger.logCallbacks sinks ∧ logger.sinkCount = sinks.length
  | .exposing => ∃ sinks, Holds logger.logCallbacks sinks ∧ logger.sinkCount + 1 = sinks.length
  | .moving i last => i ≤ last ∧ logger.sinkCount = last ∧
      ∃ sinks, Holds logger.logCallbacks sinks ∧ last + 1 = sinks.length
  | .dropping last => logger.sinkCount = last ∧
      ∃ sinks, Holds (Function.update logger.logCallbacks last none) sinks ∧ last = sinks.length
  | .clearing i _ => logger.sinkCount = 0 ∧
      ∀ j, j < i ∨ logMaxSinks ≤ j → logger.logCallbacks j = none

theorem holds_nil {logCallbacks : Nat → Option Sink} (empty : ∀ i, logCallbacks i = none) :
    Holds logCallbacks [] :=
  ⟨empty, List.nodup_nil, Nat.zero_le _⟩

theorem filterMap_range_getElem? (sinks : List Sink) (count : Nat) :
    (List.range count).filterMap (fun i => sinks[i]?) = sinks.take count := by
  induction count with
  | zero => rfl
  | succ count induction =>
      rw [List.range_succ, List.filterMap_append, induction, List.take_add_one,
        List.append_cancel_left_eq]
      cases there : sinks[count]? <;> simp [there]

/-- The sinks, and how many of them are below the count. -/
theorem Sound.exists_holds (sound : Sound logger registration)
    (keeps : registration.removes = false) :
    ∃ sinks, Holds logger.logCallbacks sinks ∧ logger.sinkCount ≤ sinks.length := by
  cases registration with
  | idle =>
      obtain ⟨sinks, holds, length⟩ := sound
      exact ⟨sinks, holds, length.le⟩
  | exposing =>
      obtain ⟨sinks, holds, length⟩ := sound
      exact ⟨sinks, holds, by omega⟩
  | _ => contradiction

theorem Sound.sinkCount_le (sound : Sound logger registration) :
    logger.sinkCount ≤ logMaxSinks := by
  cases registration with
  | idle =>
      obtain ⟨sinks, holds, length⟩ := sound
      exact length.trans_le holds.few
  | exposing =>
      obtain ⟨sinks, holds, length⟩ := sound
      have few := holds.few
      omega
  | moving i last =>
      obtain ⟨-, same, sinks, holds, length⟩ := sound
      have few := holds.few
      omega
  | dropping last =>
      obtain ⟨same, sinks, holds, length⟩ := sound
      have few := holds.few
      omega
  | clearing i callback =>
      obtain ⟨zero, -⟩ := sound
      exact zero.trans_le (Nat.zero_le _)

/-- What a call of `print` that is not disturbed relies on. -/
structure Relies (logger : Logger Sink) (registration : Registration Sink) (due : List Sink)
    (count : Nat) : Prop where
  length : count = due.length
  distinct : due.Nodup
  exposed : count ≤ logger.sinkCount
  slots : ∀ i < count, logger.logCallbacks i = due[i]?
  keeps : registration.removes = false

/-- A call relies on what it finds when it takes the count. -/
theorem Sound.relies (sound : Sound logger registration)
    (keeps : registration.removes = false) :
    Relies logger registration logger.registered logger.sinkCount := by
  obtain ⟨sinks, holds, enough⟩ := sound.exists_holds keeps
  have front : logger.registered = sinks.take logger.sinkCount := by
    rw [Logger.registered, funext holds.slots]
    exact filterMap_range_getElem? sinks _
  refine ⟨?_, ?_, le_rfl, fun i below => ?_, keeps⟩
  · rw [front, List.length_take_of_le enough]
  · exact front ▸ holds.distinct.sublist (List.take_sublist ..)
  · rw [front, holds.slots, List.getElem?_take_of_lt below]

/-! ## Changing the sinks -/

section

variable [DecidableEq Sink]

theorem Sound.addLogCallback {sinks : List Sink} (holds : Holds logger.logCallbacks sinks)
    (length : logger.sinkCount = sinks.length) (callback : Option Sink) :
    Sound (logger.addLogCallback callback).1 (logger.addLogCallback callback).2 := by
  have unchanged : Sound logger .idle := ⟨sinks, holds, length⟩
  cases callback with
  | none => exact unchanged
  | some sink =>
      rw [Logger.addLogCallback]
      split_ifs with there full
      · exact unchanged
      · exact unchanged
      · refine ⟨sinks ++ [sink], ⟨fun i => ?_, ?_, ?_⟩, ?_⟩
        · dsimp only
          rw [Function.update_apply, holds.slots, length]
          split_ifs with same
          · rw [same, List.getElem?_concat_length]
          · rcases Nat.lt_or_gt_of_ne same with below | above
            · rw [List.getElem?_append_left below]
            · rw [List.getElem?_eq_none above.le]
              exact (List.getElem?_eq_none (by simpa using above.nat_succ_le)).symm
        · refine List.nodup_append.mpr ⟨holds.distinct, List.nodup_singleton _, ?_⟩
          intro other listed added new same
          obtain rfl := same.trans (List.mem_singleton.mp new)
          obtain ⟨i, below, same⟩ := List.getElem_of_mem listed
          exact there ⟨i, length ▸ below, by rw [holds.slots, List.getElem?_eq_getElem below, same]⟩
        · rw [List.length_append, List.length_singleton]
          omega
        · rw [List.length_append, List.length_singleton, length]

theorem Sound.removeLogCallback {sinks : List Sink} (holds : Holds logger.logCallbacks sinks)
    (length : logger.sinkCount = sinks.length) (callback : Option Sink) :
    Sound (logger.removeLogCallback callback).1 (logger.removeLogCallback callback).2 := by
  rw [Logger.removeLogCallback]
  cases found : (List.range logger.sinkCount).find? fun i => logger.logCallbacks i = callback with
  | none => exact ⟨sinks, holds, length⟩
  | some i =>
      have below := List.mem_range.mp (List.mem_of_find?_eq_some found)
      exact ⟨by omega, rfl, sinks, holds, by omega⟩

/-- Every store keeps the sinks in order. -/
theorem Sound.store (sound : Sound logger registration) :
    Sound (logger.store registration).1 (logger.store registration).2 := by
  cases registration with
  | idle => exact sound
  | exposing => exact sound
  | moving i last =>
      obtain ⟨order, same, sinks, holds, length⟩ := sound
      obtain rfl | ⟨init, sink, rfl⟩ := sinks.eq_nil_or_concat'
      · simp at length
      have len : last = init.length := by simpa using length
      have distinct := List.nodup_append.mp holds.distinct
      have absent : sink ∉ init := fun listed => distinct.2.2 _ listed _ (by simp) rfl
      refine ⟨same, init.set i sink, ⟨fun j => ?_, distinct.1.set absent, ?_⟩, ?_⟩
      · have top : logger.logCallbacks last = some sink := by
          rw [holds.slots, len, List.getElem?_concat_length]
        rw [Function.update_apply, Logger.store, top]
        dsimp only
        rw [Function.update_apply, holds.slots, List.getElem?_set]
        split_ifs <;> grind
      · have few := holds.few
        rw [List.length_set]
        rw [List.length_append] at few
        omega
      · rw [List.length_set, len]
  | dropping last =>
      obtain ⟨same, sinks, holds, length⟩ := sound
      exact ⟨sinks, holds, same.trans length⟩
  | clearing i callback =>
      obtain ⟨zero, empty⟩ := sound
      rw [Logger.store]
      split_ifs with more
      · refine ⟨zero, fun j cleared => ?_⟩
        dsimp only
        rw [Function.update_apply]
        split_ifs with same
        · rfl
        · exact empty j (cleared.imp_left fun below => by omega)
      · exact Sound.addLogCallback (holds_nil fun j => empty j (by omega)) zero callback

theorem addLogCallback_removes (logger : Logger Sink) (callback : Option Sink) :
    (logger.addLogCallback callback).2.removes = false := by
  cases callback with
  | none => rfl
  | some sink =>
      rw [Logger.addLogCallback]
      split_ifs <;> rfl

theorem Relies.addLogCallback (relies : Relies logger registration due count)
    (callback : Option Sink) :
    Relies (logger.addLogCallback callback).1 (logger.addLogCallback callback).2 due count := by
  have keeps := addLogCallback_removes logger callback
  cases callback with
  | none => exact ⟨relies.length, relies.distinct, relies.exposed, relies.slots, keeps⟩
  | some sink =>
      rw [Logger.addLogCallback] at keeps ⊢
      split_ifs at keeps ⊢
      · exact ⟨relies.length, relies.distinct, relies.exposed, relies.slots, keeps⟩
      · exact ⟨relies.length, relies.distinct, relies.exposed, relies.slots, keeps⟩
      · refine ⟨relies.length, relies.distinct, relies.exposed, fun i below => ?_, keeps⟩
        exact (Function.update_of_ne (below.trans_le relies.exposed).ne _ _).trans
          (relies.slots i below)

/-- Without a removal, the next store leaves the slots below the count. -/
theorem Relies.store (relies : Relies logger registration due count) :
    Relies (logger.store registration).1 (logger.store registration).2 due count := by
  obtain ⟨length, distinct, exposed, slots, keeps⟩ := relies
  cases registration with
  | idle => exact ⟨length, distinct, exposed, slots, rfl⟩
  | exposing => exact ⟨length, distinct, exposed.trans (Nat.le_succ _), slots, rfl⟩
  | _ => contradiction

end

/-! ## The calls -/

/-- How far a call has come, and what it has called. -/
def Walked (logger : Logger Sink) (registration : Registration Sink) (due : List Sink)
    (disturbed : Bool) : Print Sink → Prop
  | .waiting => due = [] ∧ disturbed = false
  | .entered => True
  | .walking count i called => i ≤ count ∧ count ≤ logMaxSinks ∧ called.length ≤ i ∧
      (disturbed = false → Relies logger registration due count ∧ called = due.take i)
  | .holding count i cb called => i < count ∧ count ≤ logMaxSinks ∧ called.length ≤ i ∧
      (disturbed = false → Relies logger registration due count ∧ called = due.take i ∧
        cb = due[i]?)
  | .finished called => called.length ≤ logMaxSinks ∧
      (disturbed = false → called = due ∧ due.Nodup)

variable {disturbed : Bool} {call : Print Sink} {level : LogLevel}

/-- A call is where it was, as long as it relies on what it relied on. -/
theorem Walked.congr {after : Logger Sink} {later : Registration Sink}
    (walked : Walked logger registration due disturbed call)
    (relies : ∀ count, Relies logger registration due count → Relies after later due count) :
    Walked after later due disturbed call := by
  cases call with
  | waiting => exact walked
  | entered => exact walked
  | walking count i called =>
      obtain ⟨order, few, short, rest⟩ := walked
      exact ⟨order, few, short, fun calm => ⟨relies count (rest calm).1, (rest calm).2⟩⟩
  | holding count i cb called =>
      obtain ⟨order, few, short, rest⟩ := walked
      exact ⟨order, few, short, fun calm => ⟨relies count (rest calm).1, (rest calm).2⟩⟩
  | finished called => exact walked

/-- A call that is under way is disturbed by a removal. -/
theorem Walked.disturb {after : Logger Sink} {later : Registration Sink}
    (walked : Walked logger registration due disturbed call) :
    Walked after later due (disturbed || call.underway) call := by
  cases call with
  | waiting => exact ⟨walked.1, by simp [walked.2, Print.underway]⟩
  | entered => trivial
  | walking count i called =>
      exact ⟨walked.1, walked.2.1, walked.2.2.1, by simp [Print.underway]⟩
  | holding count i cb called =>
      exact ⟨walked.1, walked.2.1, walked.2.2.1, by simp [Print.underway]⟩
  | finished called =>
      exact ⟨walked.1, fun calm => walked.2 (by simpa [Print.underway] using calm)⟩

/-- A call that has not taken the count yet takes it now. -/
theorem walked_entered (sound : Sound logger registration) (level : LogLevel) :
    Walked logger registration logger.registered registration.removes
      (logger.print level .entered) :=
  ⟨Nat.zero_le _, sound.sinkCount_le, Nat.le_refl 0, fun keeps =>
    ⟨sound.relies keeps, List.take_zero.symm⟩⟩

/-- Another step of a call. -/
theorem Walked.print (walked : Walked logger registration due disturbed call)
    (taken : call ≠ .entered) :
    Walked logger registration due disturbed (logger.print level call) := by
  cases call with
  | waiting =>
      obtain ⟨nothing, calm⟩ := walked
      rw [Logger.print]
      split_ifs
      · trivial
      · exact ⟨Nat.zero_le _, fun _ => ⟨nothing.symm, nothing ▸ List.nodup_nil⟩⟩
  | entered => contradiction
  | walking count i called =>
      obtain ⟨order, few, short, rest⟩ := walked
      rw [Logger.print]
      split_ifs with more
      · refine ⟨more, few, short, fun calm => ?_⟩
        obtain ⟨relies, front⟩ := rest calm
        exact ⟨relies, front, relies.slots i more⟩
      · refine ⟨by omega, fun calm => ?_⟩
        obtain ⟨relies, front⟩ := rest calm
        have length := relies.length
        exact ⟨front.trans (List.take_of_length_le (by omega)), relies.distinct⟩
  | holding count i cb called =>
      obtain ⟨more, few, short, rest⟩ := walked
      refine ⟨more, few, ?_, fun calm => ?_⟩
      · rw [List.length_append]
        cases cb <;> simp <;> omega
      · obtain ⟨relies, front, loaded⟩ := rest calm
        exact ⟨relies, by rw [front, loaded, List.take_add_one]⟩
  | finished called => exact walked

/-! ## Runs -/

/-- The slots are in order, and every call is where it says. -/
structure Printing.Orderly {Task : Type*} (state : Printing Sink Task) : Prop where
  sound : Sound state.logger state.registration
  walked : ∀ task, Walked state.logger state.registration (state.due task)
    (state.disturbed task) (state.prints task)

section

variable {Task : Type*} {state : Printing Sink Task}

theorem Printing.Orderly.disturb (orderly : state.Orderly)
    {changed : Logger Sink × Registration Sink} (sound : Sound changed.1 changed.2) :
    (state.disturb changed).Orderly :=
  ⟨sound, fun task => (orderly.walked task).disturb⟩

variable [DecidableEq Task]

theorem Printing.Orderly.advance (orderly : state.Orderly) (level : LogLevel) (task : Task) :
    (state.advance level task).Orderly := by
  obtain ⟨sound, walked⟩ := orderly
  rw [Printing.advance]
  cases stands : state.prints task with
  | entered =>
      refine ⟨sound, fun other => ?_⟩
      by_cases same : other = task
      · subst same
        simpa [stands] using walked_entered sound level
      · simpa [same] using walked other
  | _ =>
      refine ⟨sound, fun other => ?_⟩
      by_cases same : other = task
      · subst same
        simpa [stands] using (stands ▸ walked other).print (by simp)
      · simpa [same] using walked other

variable [DecidableEq Sink]

theorem Printing.Orderly.next (orderly : state.Orderly) {levels : Task → LogLevel}
    {step : Step Sink Task} {after : Printing Sink Task}
    (moves : state.next levels step = some after) : after.Orderly := by
  obtain ⟨sound, walked⟩ := orderly
  cases step with
  | setLevel level =>
      obtain rfl := Option.some.inj moves
      refine ⟨?_, fun task => (walked task).congr fun count relies => ?_⟩
      · cases there : state.registration <;> simpa [Sound, there] using sound
      · exact ⟨relies.length, relies.distinct, relies.exposed, relies.slots, relies.keeps⟩
  | addLogCallback callback =>
      rw [Printing.next] at moves
      split at moves
      next idle =>
          obtain rfl := Option.some.inj moves
          obtain ⟨sinks, holds, length⟩ := idle ▸ sound
          exact ⟨Sound.addLogCallback holds length callback,
            fun task => (walked task).congr fun count relies => relies.addLogCallback callback⟩
      next => contradiction
  | removeLogCallback callback =>
      rw [Printing.next] at moves
      split at moves
      next idle =>
          obtain rfl := Option.some.inj moves
          obtain ⟨sinks, holds, length⟩ := idle ▸ sound
          exact Printing.Orderly.disturb ⟨sound, walked⟩
            (Sound.removeLogCallback holds length callback)
      next => contradiction
  | setLogCallback callback =>
      rw [Printing.next] at moves
      split at moves
      next idle =>
          obtain rfl := Option.some.inj moves
          obtain ⟨sinks, holds, length⟩ := idle ▸ sound
          refine Printing.Orderly.disturb ⟨sound, walked⟩ ⟨rfl, fun j beyond => ?_⟩
          have few := holds.few
          exact (holds.slots j).trans (List.getElem?_eq_none (by omega))
      next => contradiction
  | store =>
      obtain rfl := Option.some.inj moves
      exact ⟨sound.store, fun task => (walked task).congr fun count relies => relies.store⟩
  | print task =>
      obtain rfl := Option.some.inj moves
      exact Printing.Orderly.advance ⟨sound, walked⟩ (levels task) task

theorem printing_orderly {levels : Task → LogLevel}
    (reach : (printing levels).Reaches (fun _ _ => True) state) : state.Orderly := by
  refine reach.invariant ⟨⟨[], holds_nil fun _ => rfl, rfl⟩, fun _ => ⟨rfl, rfl⟩⟩ ?_
  exact fun _ _ _ orderly _ moves => orderly.next moves

/-- A call of `print` calls the sinks that were registered when it took the count, each once and in
the order of their registration, whatever is logged and added meanwhile. Only a removal during the
call can make a difference; even then it makes no more calls than there are slots. -/
theorem print_calls_sinks {levels : Task → LogLevel}
    (reach : (printing levels).Reaches (fun _ _ => True) state) (task : Task) :
    (∀ called, state.prints task = .finished called → called.length ≤ logMaxSinks ∧
      (state.disturbed task = false → called = state.due task ∧ (state.due task).Nodup)) ∧
    (∀ count i cb called, state.prints task = .holding count i cb called →
      i < logMaxSinks ∧ (state.disturbed task = false → cb.isSome = true)) := by
  have walked := (printing_orderly reach).walked task
  constructor
  · intro called ended
    rw [ended] at walked
    exact walked
  · intro count i cb called loaded
    rw [loaded] at walked
    obtain ⟨more, few, short, rest⟩ := walked
    refine ⟨more.trans_le few, fun calm => ?_⟩
    obtain ⟨relies, front, same⟩ := rest calm
    rw [same, List.getElem?_eq_getElem (relies.length ▸ more)]
    rfl

end

/-- The sinks of the firmware. -/
inductive FirmwareSink
  | logStore
  | webUI
  deriving DecidableEq

/-- Informative lines on any number of tasks. -/
def informing : StepSystem (Printing FirmwareSink Nat) (Step FirmwareSink Nat) :=
  printing fun _ => .info

/-- A sink is added while a line is printed, and gets the next one. -/
theorem print_calls_sinks_added : ∃ state, informing.Reaches (fun _ _ => True) state ∧
    state.prints 1 = .finished [.logStore, .webUI] ∧
    [FirmwareSink.logStore] = state.due 0 ∧ (state.due 0).Nodup := by
  have fresh : informing.Reaches (fun _ _ => True) informing.start := .start
  obtain ⟨state, reach, ended⟩ := fresh.test
    [.addLogCallback (some .logStore), .store, .print 0, .print 0, .addLogCallback (some .webUI),
      .print 0, .store, .print 1, .print 1, .print 0, .print 0, .print 1, .print 1, .print 1,
      .print 1, .print 1]
    (fun state => state.prints 0 = .finished [.logStore] ∧ state.disturbed 0 = false ∧
      state.prints 1 = .finished [.logStore, .webUI]) (by decide +kernel)
  obtain ⟨first, calm, second⟩ := of_decide_eq_true ended
  exact ⟨state, reach, second, ((print_calls_sinks reach 0).1 _ first).2 calm⟩

/-- A removal moves a sink to a slot that the call has yet to load, and leaves it in its own. -/
example : (informing.run (fun _ _ => True) informing.start
    [.addLogCallback (some .logStore), .store, .addLogCallback (some .webUI), .store, .print 0,
      .print 0, .removeLogCallback (some .logStore), .store, .print 0, .print 0, .print 0,
      .print 0, .print 0]).map (fun state => state.prints 0) =
    some (.finished [.webUI, .webUI]) := by
  decide +kernel

end ModbusBridge.ESPLogger
