import Mathlib.Data.List.Chain
import Mathlib.Tactic.Linarith

/-!
# A queue that a loop looks into

Items come into a queue, each at its time. A loop takes one of them in each of its turns, if there
is one. If the turns follow each other within a period and the items come at some rate, then no item
waits longer than the slower of the two explains.
-/

namespace PolledQueue

/-- A turn of a loop. -/
structure Turn where
  begins : Nat
  /-- When it looks into the queue. -/
  looks : Nat
  ends : Nat

/-- A turn looks into the queue at most a period after the turn before it, and soon ends. -/
structure Turn.Follows (period : Nat) (earlier later : Turn) : Prop where
  begins : earlier.ends ≤ later.begins
  looks : later.begins ≤ later.looks
  ends : later.looks ≤ later.ends
  prompt : later.looks ≤ earlier.looks + period
  brief : later.ends ≤ later.looks + period

theorem Turn.Follows.ends_le {period : Nat} {earlier later : Turn}
    (follows : earlier.Follows period later) : earlier.ends ≤ later.ends :=
  follows.begins.trans (follows.looks.trans follows.ends)

variable {α : Type*}

/-- The turns, each with what it takes. An item comes with its time. -/
def serve : List Turn → List (Nat × α) → List (Turn × Option α)
  | [], _ => []
  | turn :: turns, [] => (turn, none) :: serve turns []
  | turn :: turns, arrival :: arrivals =>
      if arrival.1 ≤ turn.looks then (turn, some arrival.2) :: serve turns arrivals
      else (turn, none) :: serve turns (arrival :: arrivals)

theorem serve_nil (turns : List Turn) :
    ∀ entry ∈ serve turns ([] : List (Nat × α)), entry.2 = none := by
  induction turns with
  | nil => exact List.forall_mem_nil _
  | cons turn turns induction => exact List.forall_mem_cons.mpr ⟨rfl, induction⟩

/-- Turns that take nothing end soon after the last one that took something. -/
def Close (pause : Nat) : Option Nat → List (Turn × Option α) → Prop
  | _, [] => True
  | _, (turn, some _) :: entries => Close pause (some turn.ends) entries
  | last, (turn, none) :: entries =>
      (∀ time ∈ last, time ≤ turn.ends ∧ turn.ends ≤ time + pause) ∧ Close pause last entries

/-- The entries take the values, in their order, between two times and without long pauses. Those
behind them take nothing. -/
def Takes (pause start limit : Nat) (last : Option Nat) (values : List α)
    (entries : List (Turn × Option α)) : Prop :=
  ∃ busy idle, entries = busy ++ idle ∧ busy.filterMap Prod.snd = values ∧
    (∀ entry ∈ busy, start ≤ entry.1.begins ∧ entry.1.begins < limit) ∧ Close pause last busy ∧
    ∀ entry ∈ idle, entry.2 = none

variable {pause start limit : Nat} {last : Option Nat} {values : List α}
  {entries : List (Turn × Option α)} {turn : Turn}

theorem Takes.take {value : α} (takes : Takes pause start limit (some turn.ends) values entries)
    (within : start ≤ turn.begins ∧ turn.begins < limit) :
    Takes pause start limit last (value :: values) ((turn, some value) :: entries) := by
  obtain ⟨busy, idle, rfl, rfl, times, close, nothing⟩ := takes
  exact ⟨(turn, some value) :: busy, idle, rfl, rfl, List.forall_mem_cons.mpr ⟨within, times⟩,
    close, nothing⟩

theorem Takes.wait (takes : Takes pause start limit last values entries)
    (within : start ≤ turn.begins ∧ turn.begins < limit)
    (near : ∀ time ∈ last, time ≤ turn.ends ∧ turn.ends ≤ time + pause) :
    Takes pause start limit last values ((turn, none) :: entries) := by
  obtain ⟨busy, idle, rfl, rfl, times, close, nothing⟩ := takes
  exact ⟨(turn, none) :: busy, idle, rfl, rfl, List.forall_mem_cons.mpr ⟨within, times⟩,
    ⟨near, close⟩, nothing⟩

/-- Every item has a time by which it is taken, if these times leave room for a period after the
item has come and after the item before it. Times are counted in steps of a given size. -/
theorem serve_takes (step : Nat) (due : Nat → Nat) {period : Nat} (turns : List Turn)
    (arrivals : List (Nat × α)) (before : Turn)
    (regular : (before :: turns).IsChain (Turn.Follows period)) (started : start ≤ before.ends)
    (comes : ∀ i, ∀ arrival ∈ arrivals[i]?, step * (arrival.1 + period) ≤ due i)
    (spaced : ∀ i, due i + step * period ≤ due (i + 1))
    (first : step * (before.looks + period) ≤ due 0)
    (soon : ∀ i < arrivals.length, due i < step * limit)
    (covers : ∃ turn ∈ turns, limit ≤ turn.begins)
    (dense : arrivals.IsChain fun earlier later => later.1 ≤ earlier.1 + pause)
    (near : ∀ time ∈ last, time ≤ before.ends ∧ ∀ arrival ∈ arrivals.head?,
      arrival.1 ≤ time + pause) :
    Takes (pause + period) start limit last (arrivals.map Prod.snd) (serve turns arrivals) := by
  induction turns generalizing arrivals before last due with
  | nil => simp at covers
  | cons turn turns induction =>
      obtain ⟨follows, regular⟩ := List.isChain_cons_cons.mp regular
      cases arrivals with
      | nil => exact ⟨[], _, rfl, rfl, List.forall_mem_nil _, trivial,
          serve_nil (turn :: turns)⟩
      | cons arrival arrivals =>
          have early : step * turn.looks ≤ due 0 :=
            (Nat.mul_le_mul_left _ follows.prompt).trans first
          have inside : turn.looks < limit :=
            Nat.lt_of_mul_lt_mul_left (early.trans_lt (soon 0 (Nat.succ_pos _)))
          have within : start ≤ turn.begins ∧ turn.begins < limit :=
            ⟨started.trans follows.begins, follows.looks.trans_lt inside⟩
          have covers : ∃ turn ∈ turns, limit ≤ turn.begins := by
            obtain ⟨other, listed, late⟩ := covers
            rcases List.mem_cons.mp listed with rfl | later
            · exact absurd late within.2.not_ge
            · exact ⟨other, later, late⟩
          have started : start ≤ turn.ends := started.trans follows.ends_le
          rw [serve]
          split_ifs with here
          · refine Takes.take (induction _ arrivals turn regular started
              (fun i => comes (i + 1)) (fun i => spaced (i + 1)) ?_
              (fun i lower => soon (i + 1) (Nat.succ_lt_succ lower)) covers dense.tail ?_) within
            · exact (Nat.mul_add _ _ _).trans_le
                ((Nat.add_le_add_right early _).trans (spaced 0))
            · intro time same
              obtain rfl := Option.some.inj same
              refine ⟨le_rfl, fun next head => ?_⟩
              obtain ⟨rest, rfl⟩ := List.head?_eq_some_iff.mp head
              have gap := (List.isChain_cons_cons.mp dense).1
              have ends := follows.ends
              omega
          · have waits := comes 0 arrival rfl
            refine Takes.wait (induction due (arrival :: arrivals) turn regular started comes spaced
              ((Nat.mul_le_mul_left _ (by omega)).trans waits) soon covers dense ?_) within ?_
            · intro time same
              obtain ⟨passed, gap⟩ := near time same
              exact ⟨passed.trans follows.ends_le, gap⟩
            · intro time same
              obtain ⟨passed, gap⟩ := near time same
              have gap := gap arrival rfl
              have brief := follows.brief
              exact ⟨passed.trans follows.ends_le, by omega⟩

/-- Items that come at some rate, after a delay, are taken at that rate or once a period, whatever
is slower. -/
theorem serve_takes_of_rate {step cost period delay : Nat} {turns : List Turn}
    {arrivals : List (Nat × α)}
    (regular : (⟨start, start, start⟩ :: turns).IsChain (Turn.Follows period))
    (comes : ∀ i, ∀ arrival ∈ arrivals[i]?,
      step * arrival.1 ≤ step * (start + delay) + cost * (i + 1))
    (soon : step * (start + delay + period) + arrivals.length * max cost (step * period) <
      step * limit)
    (covers : ∃ turn ∈ turns, limit ≤ turn.begins)
    (dense : arrivals.IsChain fun earlier later => later.1 ≤ earlier.1 + pause) :
    Takes (pause + period) start limit none (arrivals.map Prod.snd) (serve turns arrivals) := by
  refine serve_takes step
    (fun i => step * (start + delay + period) + (i + 1) * max cost (step * period))
    turns arrivals ⟨start, start, start⟩ regular le_rfl ?_ ?_ ?_ ?_ covers dense (by simp)
  · intro i arrival listed
    have bound := comes i arrival listed
    have slower : cost * (i + 1) ≤ (i + 1) * max cost (step * period) :=
      (Nat.mul_comm _ _).trans_le (Nat.mul_le_mul_left _ (le_max_left _ _))
    linarith
  · intro i
    have slower := le_max_right cost (step * period)
    linarith
  · have slower := Nat.zero_le (max cost (step * period))
    have waits := Nat.zero_le (step * delay)
    linarith
  · intro i lower
    exact (Nat.add_le_add_left (Nat.mul_le_mul_right _ lower) _).trans_lt soon

end PolledQueue
