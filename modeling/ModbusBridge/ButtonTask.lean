import Mathlib.Data.List.DropRight
import ModbusBridge.Text

/-!
# The reset button

`buttonTask` samples the button. It knows the time in milliseconds modulo 2^32, and calls for a
factory reset when a button is released that has been held for ten seconds.
-/

namespace ModbusBridge

namespace ButtonTask

/-! ## The loop -/

/-- The variables of `buttonTask`. -/
structure State where
  buttonPressStart : UInt32
  buttonWasPressed : Bool

/-- What one turn of the loop finds: the button, and the milliseconds since the start. -/
structure Sample where
  pressed : Bool
  time : Nat

/-- What `millis()` returns then. -/
def Sample.millis (sample : Sample) : UInt32 := UInt32.ofNat sample.time

/-- What one turn of the loop does. -/
inductive Outcome
  | nothing
  | pressed
  /-- The button is released, and `config.factoryReset()` is called. The device restarts if that
  succeeds, and the loop goes on if it fails. -/
  | factoryReset (holdTime : UInt32)
  | released (holdTime : UInt32)
  /-- The message asks to hold the button for so many more seconds. -/
  | progress (remaining : UInt32)
  deriving DecidableEq

/-- The variables before the loop. -/
def State.initial : State := ⟨0, false⟩

/-- One turn of the loop. -/
def turn (state : State) (sample : Sample) : State × Outcome :=
  if sample.pressed ∧ !state.buttonWasPressed then (⟨sample.millis, true⟩, .pressed)
  else if !sample.pressed ∧ state.buttonWasPressed then
    let holdTime := sample.millis - state.buttonPressStart
    ({ state with buttonWasPressed := false },
      if holdTime ≥ 10000 then .factoryReset holdTime else .released holdTime)
  else if sample.pressed ∧ state.buttonWasPressed then
    let holdTime := sample.millis - state.buttonPressStart
    let remaining := (10000 - holdTime) / 1000
    (state,
      if holdTime % 2000 < 200 ∧ remaining > 0 then .progress remaining else .nothing)
  else (state, .nothing)

/-- The variables after some turns. -/
def run (samples : List Sample) : State :=
  samples.foldl (fun state sample => (turn state sample).1) .initial

/-! ## What has happened so far -/

/-- When the button was pressed that has been found pressed ever since. -/
def pressedSince (samples : List Sample) : Option Nat :=
  (samples.rtakeWhile Sample.pressed).head?.map Sample.time

variable {samples : List Sample} {sample : Sample}

theorem pressedSince_append (samples : List Sample) (sample : Sample) :
    pressedSince (samples ++ [sample]) =
      if sample.pressed then some ((pressedSince samples).getD sample.time) else none := by
  rw [pressedSince, pressedSince, List.rtakeWhile_concat]
  split_ifs with pressed
  · cases samples.rtakeWhile Sample.pressed <;> rfl
  · rfl

/-- The variables tell since when the button has been pressed. -/
theorem run_eq (samples : List Sample) :
    (run samples).buttonWasPressed = (pressedSince samples).isSome ∧
      ∀ since ∈ pressedSince samples, (run samples).buttonPressStart = UInt32.ofNat since := by
  induction samples using List.reverseRecOn with
  | nil => exact ⟨rfl, by simp [pressedSince]⟩
  | append_singleton samples sample induction =>
      obtain ⟨was, start⟩ := induction
      have last : run (samples ++ [sample]) = (turn (run samples) sample).1 := by
        rw [run, List.foldl_append]
        rfl
      rw [last, pressedSince_append, turn]
      cases pressed : sample.pressed with
      | false =>
          cases before : pressedSince samples with
          | none => simp [was, before]
          | some since => simp [was, before]
      | true =>
          cases before : pressedSince samples with
          | none => simp [was, before, Sample.millis]
          | some since => simp [was, before, start since before]

theorem mem_of_pressedSince {since : Nat} (pressed : since ∈ pressedSince samples) :
    ∃ earlier ∈ samples, earlier.time = since := by
  obtain ⟨first, found, rfl⟩ := Option.map_eq_some_iff.mp pressed
  exact ⟨first, (List.rtakeWhile_suffix Sample.pressed samples).subset
    (List.mem_of_mem_head? found), rfl⟩

/-- The difference of two readings of the clock. -/
theorem millis_sub {since : Nat} (order : since ≤ sample.time) :
    sample.millis - UInt32.ofNat since =
      UInt32.ofNat ((sample.time - since) % 4294967296) := by
  rw [Sample.millis, ← UInt32.ofNat_sub order, ← UInt32.toNat_inj]
  simp

/-! ## What a turn does -/

/-- The seconds that a message names to someone who has held the button for some time. -/
def announced (held : Nat) : Nat :=
  if held ≤ 10000 then (10000 - held) / 1000 else (4294977296 - held) / 1000

theorem remaining_eq {held : Nat} (small : held < 4294967296) :
    ((10000 - UInt32.ofNat held) / 1000 : UInt32) = UInt32.ofNat (announced held) := by
  rw [announced]
  apply UInt32.toNat_inj.mp
  rw [UInt32.toNat_div, UInt32.toNat_sub, UInt32.toNat_ofNat', UInt32.toNat_ofNat',
    Nat.mod_eq_of_lt small]
  split_ifs <;> simp <;> omega

/-- What the loop does when it finds the button pressed. -/
theorem turn_pressed (samples : List Sample) (pressed : sample.pressed = true) :
    (turn (run samples) sample).2 =
      match pressedSince samples with
      | none => .pressed
      | some since =>
          let holdTime := sample.millis - UInt32.ofNat since
          if holdTime % 2000 < 200 ∧ (10000 - holdTime) / 1000 > 0 then
            .progress ((10000 - holdTime) / 1000)
          else .nothing := by
  obtain ⟨was, start⟩ := run_eq samples
  rw [turn]
  cases before : pressedSince samples with
  | none => simp [was, before, pressed]
  | some since => simp [was, before, pressed, start since before]

/-- What the loop does when it finds the button released. -/
theorem turn_released (samples : List Sample) (released : sample.pressed = false) :
    (turn (run samples) sample).2 =
      match pressedSince samples with
      | none => .nothing
      | some since =>
          let holdTime := sample.millis - UInt32.ofNat since
          if holdTime ≥ 10000 then .factoryReset holdTime else .released holdTime := by
  obtain ⟨was, start⟩ := run_eq samples
  rw [turn]
  cases before : pressedSince samples with
  | none => simp [was, before, released]
  | some since => simp [was, before, released, start since before]

/-- The factory reset is called for exactly when the button is released after it has been held for
ten seconds, modulo 2^32 milliseconds. A message names the seconds that are left of the ten; when
they are over, it names seconds that are left of 2^32 milliseconds and ten seconds more. -/
theorem buttonTask_outcome (samples : List Sample) (sample : Sample)
    (ordered : ∀ earlier ∈ samples, earlier.time ≤ sample.time) :
    ((∃ holdTime, (turn (run samples) sample).2 = .factoryReset holdTime) ↔
      sample.pressed = false ∧ ∃ since ∈ pressedSince samples,
        10000 ≤ (sample.time - since) % 4294967296) ∧
    ∀ seconds, (turn (run samples) sample).2 = .progress seconds ↔
      sample.pressed = true ∧ ∃ since ∈ pressedSince samples,
        (sample.time - since) % 4294967296 % 2000 < 200 ∧ 0 < seconds ∧
        seconds.toNat = announced ((sample.time - since) % 4294967296) := by
  have earlier : ∀ since ∈ pressedSince samples, since ≤ sample.time := by
    intro since before
    obtain ⟨first, listed, rfl⟩ := mem_of_pressedSince before
    exact ordered first listed
  cases pressed : sample.pressed with
  | true =>
      rw [turn_pressed samples pressed]
      cases before : pressedSince samples with
      | none => simp
      | some since =>
          have small : (sample.time - since) % 4294967296 < 4294967296 := Nat.mod_lt _ (by decide)
          simp only [millis_sub (earlier since before), remaining_eq small, Option.mem_some_iff,
            exists_eq_left']
          generalize (sample.time - since) % 4294967296 = held at small ⊢
          have few : announced held < 4294967296 := by
            rw [announced]
            split <;> omega
          have rest : UInt32.ofNat held % 2000 < 200 ↔ held % 2000 < 200 := by
            rw [UInt32.lt_iff_toNat_lt, UInt32.toNat_mod, UInt32.toNat_ofNat',
              Nat.mod_eq_of_lt small]
            rfl
          have names (seconds : UInt32) :
              UInt32.ofNat (announced held) = seconds ↔ seconds.toNat = announced held := by
            rw [← UInt32.toNat_inj, UInt32.toNat_ofNat', Nat.mod_eq_of_lt few, eq_comm]
          by_cases asks : UInt32.ofNat held % 2000 < 200 ∧ UInt32.ofNat (announced held) > 0
          · rw [if_pos asks]
            refine ⟨by simp, fun seconds => ?_⟩
            rw [Outcome.progress.injEq, names]
            refine ⟨fun same => ⟨trivial, rest.mp asks.1, ?_, same⟩, fun told => told.2.2.2⟩
            exact (names seconds).mpr same ▸ asks.2
          · rw [if_neg asks]
            refine ⟨by simp, fun seconds => iff_of_false (by simp) ?_⟩
            rintro ⟨-, early, some_left, same⟩
            exact asks ⟨rest.mpr early, (names seconds).mpr same ▸ some_left⟩
  | false =>
      rw [turn_released samples pressed]
      cases before : pressedSince samples with
      | none => simp
      | some since =>
          have small : (sample.time - since) % 4294967296 < 4294967296 := Nat.mod_lt _ (by decide)
          simp only [millis_sub (earlier since before), Option.mem_some_iff, exists_eq_left']
          generalize (sample.time - since) % 4294967296 = held at small ⊢
          have long : UInt32.ofNat held ≥ 10000 ↔ 10000 ≤ held := by
            rw [ge_iff_le, UInt32.le_iff_toNat_le, UInt32.toNat_ofNat', Nat.mod_eq_of_lt small]
            rfl
          by_cases enough : UInt32.ofNat held ≥ 10000
          · rw [if_pos enough]
            simpa using long.mp enough
          · rw [if_neg enough]
            simpa using fun held_long => enough (long.mpr held_long)

/-- The button is pressed briefly, and then held for ten seconds across the wrap of the clock. -/
theorem buttonTask_outcome_held :
    ∃ holdTime, (turn (run [⟨true, 0⟩, ⟨false, 200⟩, ⟨true, 4294967000⟩, ⟨true, 4294976000⟩])
      ⟨false, 4294977100⟩).2 = .factoryReset holdTime :=
  (buttonTask_outcome [⟨true, 0⟩, ⟨false, 200⟩, ⟨true, 4294967000⟩, ⟨true, 4294976000⟩]
    ⟨false, 4294977100⟩ (by decide)).1.mpr ⟨rfl, 4294967000, rfl, by decide⟩

/-- The button is still held after twelve seconds. -/
example : (turn (run [⟨true, 0⟩]) ⟨true, 12000⟩).2 = .progress 4294965 := by decide

end ButtonTask

end ModbusBridge
