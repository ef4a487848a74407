import Mathlib.Data.Option.Basic

/-!
# Systems that take steps

A state and a label determine the next state, if the step is possible at all. `Reaches` collects
what some run reaches whose steps all meet a side condition; an invariant of the steps holds there.
-/

/-- A system whose steps are labelled. -/
structure StepSystem (σ α : Type*) where
  start : σ
  /-- The next state, if the step is possible. -/
  next : σ → α → Option σ

namespace StepSystem

variable {σ α : Type*} {system : StepSystem σ α} {Allowed : σ → α → Prop} {state last : σ}

/-- A run with allowed steps ends in the state. -/
inductive Reaches (system : StepSystem σ α) (Allowed : σ → α → Prop) : σ → Prop
  | start : Reaches system Allowed system.start
  | step {before after : σ} {label : α} (reach : Reaches system Allowed before)
      (allowed : Allowed before label) (moves : system.next before label = some after) :
      Reaches system Allowed after

/-- What holds at the start and is kept by every allowed step holds of every state reached. -/
theorem Reaches.invariant {Inv : σ → Prop} (reach : system.Reaches Allowed state)
    (start : Inv system.start)
    (step : ∀ before label after, Inv before → Allowed before label →
      system.next before label = some after → Inv after) : Inv state := by
  induction reach with
  | start => exact start
  | step _ allowed moves induction => exact step _ _ _ induction allowed moves

/-- The end of a given run with allowed steps. -/
def run (system : StepSystem σ α) (Allowed : σ → α → Prop) [∀ s a, Decidable (Allowed s a)] :
    σ → List α → Option σ
  | state, [] => some state
  | state, label :: labels =>
      if Allowed state label then
        match system.next state label with
        | some after => run system Allowed after labels
        | none => none
      else none

theorem Reaches.run [∀ s a, Decidable (Allowed s a)] (reach : system.Reaches Allowed state)
    {labels : List α} (runs : system.run Allowed state labels = some last) :
    system.Reaches Allowed last := by
  induction labels generalizing state with
  | nil => exact Option.some.inj runs ▸ reach
  | cons label labels induction =>
      rw [StepSystem.run] at runs
      split at runs
      next allowed =>
          split at runs
          next after moves => exact induction (.step reach allowed moves) runs
          next => contradiction
      next => contradiction

/-- What each step adds to a property, a run adds to it. -/
theorem run_gathers [∀ s a, Decidable (Allowed s a)] (Inv Good : σ → Prop) (Fits : α → Prop)
    (step : ∀ before label after, Inv before → system.next before label = some after →
      Inv after ∧ (Good after ↔ Good before ∧ Fits label))
    {labels : List α} (inv : Inv state) (runs : system.run Allowed state labels = some last) :
    Good last ↔ Good state ∧ ∀ label ∈ labels, Fits label := by
  induction labels generalizing state with
  | nil =>
      obtain rfl := Option.some.inj runs
      simp
  | cons label labels induction =>
      rw [StepSystem.run] at runs
      split at runs
      next =>
          split at runs
          next after moves =>
              obtain ⟨kept, gathered⟩ := step state label after inv moves
              rw [induction kept runs, gathered, List.forall_mem_cons, and_assoc]
          next => contradiction
      next => contradiction

/-- The end of a given run meets a test. -/
theorem Reaches.test [∀ s a, Decidable (Allowed s a)] (reach : system.Reaches Allowed state)
    (labels : List α) (passes : σ → Bool)
    (tested : (system.run Allowed state labels).any passes = true) :
    ∃ last, system.Reaches Allowed last ∧ passes last = true := by
  cases runs : system.run Allowed state labels with
  | none => simp [runs] at tested
  | some last => exact ⟨last, reach.run runs, by simpa [runs] using tested⟩

end StepSystem
