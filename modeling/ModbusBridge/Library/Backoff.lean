import Mathlib.Algebra.Order.Group.Nat
import Mathlib.Data.List.Infix
import Mathlib.Tactic.Ring

/-!
# Backing off

Waits that double with every failure in a row up to a cap, and attempts of which a few are left out,
far from one another.
-/

namespace Backoff

variable {α : Type*}

/-! ## Waits -/

/-- The wait after that many failures in a row. -/
def wait (base cap failures : Nat) : Nat := min (base * 2 ^ failures) cap

theorem wait_le (base cap failures : Nat) : wait base cap failures ≤ cap :=
  Nat.min_le_right _ _

theorem wait_zero {base cap : Nat} (fits : base ≤ cap) : wait base cap 0 = base := by
  simp [wait, fits]

/-- One more failure doubles the wait. -/
theorem wait_succ (base cap failures : Nat) :
    wait base cap (failures + 1) = min (wait base cap failures * 2) cap := by
  have doubled : base * 2 ^ (failures + 1) = base * 2 ^ failures * 2 := by ring
  rw [wait, wait, doubled]
  omega

/-- After enough failures the wait is the cap. -/
theorem wait_eq_cap {base cap enough failures : Nat} (reaches : cap ≤ base * 2 ^ enough)
    (many : enough ≤ failures) : wait base cap failures = cap := by
  have grows : base * 2 ^ enough ≤ base * 2 ^ failures :=
    Nat.mul_le_mul_left _ (Nat.pow_le_pow_right (by decide) many)
  exact Nat.min_eq_right (reaches.trans grows)

/-! ## Failures in a row -/

/-- How many of the last results in a row are failures. -/
def streak (results : List Bool) : Nat := (results.reverse.takeWhile fun result => !result).length

theorem streak_concat (results : List Bool) (result : Bool) :
    streak (results ++ [result]) = if result then 0 else streak results + 1 := by
  rw [streak, streak]
  cases result <;> simp

/-! ## Attempts left out -/

/-- At most one element in a row of that many rests. -/
def Apart (rests : α → Bool) (width : Nat) (elements : List α) : Prop :=
  ∀ part, part <:+: elements → part.length ≤ width → part.countP rests ≤ 1

variable {rests : α → Bool} {width : Nat} {elements : List α} {next : α}

theorem apart_nil (rests : α → Bool) (width : Nat) : Apart rests width [] := by
  intro part inside _
  rw [List.infix_nil.mp inside, List.countP_nil]
  exact Nat.zero_le 1

/-- What is apart with one more element is so inside, and at the end. -/
theorem Apart.concat (apart : Apart rests width elements)
    (ends : ∀ rest, rest <:+ elements → rest.length < width →
      (rest ++ [next]).countP rests ≤ 1) : Apart rests width (elements ++ [next]) := by
  intro part inside short
  rcases List.infix_concat_iff.mp inside with last | earlier
  · rcases List.suffix_concat_iff.mp last with rfl | ⟨rest, rfl, before⟩
    · simp
    · rw [List.length_append, List.length_singleton] at short
      exact ends rest before short
  · exact apart part earlier short

theorem Apart.concat_busy (apart : Apart rests width elements) (busy : rests next = false) :
    Apart rests width (elements ++ [next]) := by
  refine apart.concat ?_
  intro rest before short
  rw [List.countP_append, List.countP_singleton, if_neg (by simp [busy])]
  exact apart rest before.isInfix short.le

theorem Apart.concat_rest {recent : List α} (apart : Apart rests width elements)
    (ends : recent <:+ elements) (long : width ≤ recent.length + 1)
    (busy : ∀ element ∈ recent, rests element = false) :
    Apart rests width (elements ++ [next]) := by
  refine apart.concat ?_
  intro rest before short
  have within : rest <:+ recent := List.suffix_of_suffix_length_le before ends (by omega)
  have none : rest.countP rests = 0 :=
    List.countP_eq_zero.mpr fun element member => by simp [busy element (within.subset member)]
  rw [List.countP_append, none, Nat.zero_add]
  exact List.countP_le_length

end Backoff
