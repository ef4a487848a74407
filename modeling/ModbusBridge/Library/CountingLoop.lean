import Mathlib.Data.List.Nodup
import ModbusBridge.Library.StepSystem

/-!
# Loops that count up to a bound

A loop `for (counter = first; counter <= last; counter++)` whose counter has no more bits than its
bound. It makes one turn for each value of the range and stops, unless the bound is the last value
that the counter can have.
-/

namespace StepSystem

variable {σ α : Type*} {w : Nat} {system : StepSystem σ α} {counter : σ → BitVec w}
  {last : BitVec w}

/-- The states at the head of each turn of a given run, and the state after it. -/
def path (system : StepSystem σ α) : σ → List α → Option (List σ × σ)
  | state, [] => some ([], state)
  | state, label :: labels =>
      match system.next state label with
      | some after => (path system after labels).map fun rest => (state :: rest.1, rest.2)
      | none => none

/-- A loop over an inclusive range. -/
structure Counts (system : StepSystem σ α) (counter : σ → BitVec w) (last : BitVec w) : Prop where
  condition : ∀ state label, (system.next state label).isSome = true ↔ counter state ≤ last
  increment : ∀ state label after, system.next state label = some after →
    counter after = counter state + 1

/-- Whatever the turns bring, the loop makes one turn for each value of the range and stops. -/
def Completes (system : StepSystem σ α) (counter : σ → BitVec w) (last : BitVec w) : Prop :=
  ∀ labels : Nat → α, ∃ count heads final,
    system.path system.start ((List.range count).map labels) = some (heads, final) ∧
      (heads.map counter).Nodup ∧
      (∀ value, value ∈ heads.map counter ↔ counter system.start ≤ value ∧ value ≤ last) ∧
      ∀ label, system.next final label = none

namespace Counts

/-- The turns that are left take the counter behind the bound. -/
theorem path_eq (counts : system.Counts counter last) (below : last ≠ BitVec.allOnes w)
    {labels : List α} {state : σ}
    (left : labels.length = last.toNat + 1 - (counter state).toNat) :
    ∃ heads final, system.path state labels = some (heads, final) ∧
      heads.map counter =
        (List.range' (counter state).toNat labels.length).map (BitVec.ofNat w) ∧
      last < counter final := by
  have bound : last.toNat < 2 ^ w - 1 := by
    have unequal : last.toNat ≠ 2 ^ w - 1 := fun same =>
      below (BitVec.eq_of_toNat_eq (same.trans BitVec.toNat_allOnes.symm))
    have inside := last.isLt
    omega
  induction labels generalizing state with
  | nil =>
      refine ⟨[], state, rfl, rfl, BitVec.lt_def.mpr ?_⟩
      rw [List.length_nil] at left
      omega
  | cons label labels induction =>
      rw [List.length_cons] at left
      have inside : counter state ≤ last := BitVec.le_def.mpr (by omega)
      obtain ⟨after, moves⟩ :=
        Option.isSome_iff_exists.mp ((counts.condition state label).mpr inside)
      have next : (counter after).toNat = (counter state).toNat + 1 := by
        have one : (1 : BitVec w).toNat = 1 % 2 ^ w := BitVec.toNat_ofNat ..
        rw [counts.increment state label after moves, BitVec.toNat_add, one, Nat.add_mod_mod,
          Nat.mod_eq_of_lt (by omega)]
      obtain ⟨heads, final, runs, values, behind⟩ := @induction after (by omega)
      refine ⟨state :: heads, final, ?_, ?_, behind⟩
      · rw [path, moves]
        simp only [runs, Option.map_some]
      · rw [List.map_cons, values, List.length_cons, List.range'_succ, List.map_cons, next,
          BitVec.ofNat_toNat, BitVec.setWidth_eq]

/-- A loop over an inclusive range ends, if and only if its bound is not the last value. -/
theorem completes_iff (counts : system.Counts counter last) (label : α) :
    system.Completes counter last ↔ last ≠ BitVec.allOnes w := by
  constructor
  · rintro completes rfl
    obtain ⟨_, _, final, -, -, -, stopped⟩ := completes fun _ => label
    have goesOn := (counts.condition final label).mpr (BitVec.le_def.mpr (by
      rw [BitVec.toNat_allOnes]
      have inside := (counter final).isLt
      omega))
    rw [stopped label] at goesOn
    contradiction
  · intro below labels
    have length : ((List.range (last.toNat + 1 - (counter system.start).toNat)).map labels).length =
        last.toNat + 1 - (counter system.start).toNat := by
      rw [List.length_map, List.length_range]
    obtain ⟨heads, final, runs, values, behind⟩ := counts.path_eq below length
    rw [length] at values
    refine ⟨_, heads, final, runs, ?_, fun value => ?_, fun label => ?_⟩
    · rw [values]
      refine List.Nodup.map_on (fun left leftIn right rightIn same => ?_) List.nodup_range'
      rw [List.mem_range'_1] at leftIn rightIn
      have toNat := congrArg BitVec.toNat same
      have inside := last.isLt
      rwa [BitVec.toNat_ofNat, BitVec.toNat_ofNat, Nat.mod_eq_of_lt (by omega),
        Nat.mod_eq_of_lt (by omega)] at toNat
    · rw [values, List.mem_map]
      constructor
      · rintro ⟨number, listed, rfl⟩
        rw [List.mem_range'_1] at listed
        have inside := last.isLt
        rw [BitVec.le_def, BitVec.le_def, BitVec.toNat_ofNat, Nat.mod_eq_of_lt (by omega)]
        omega
      · rintro ⟨atLeast, atMost⟩
        rw [BitVec.le_def] at atLeast atMost
        exact ⟨value.toNat, List.mem_range'_1.mpr (by omega), BitVec.ofNat_toNat .. |>.trans
          (BitVec.setWidth_eq value)⟩
    · rw [← Option.not_isSome_iff_eq_none, counts.condition final label]
      exact BitVec.not_le.mpr behind

end Counts

end StepSystem
