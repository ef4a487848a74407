import Mathlib.Data.List.Basic

/-!
# Flat memories

A memory is a total function from addresses to cells. Block writes and block reads are related
through `Holds`, which says that consecutive cells spell a given list.
-/

namespace Memory

variable {α : Type*}

/-- Store consecutive cells from `start` on. -/
def write (mem : Nat → α) (start : Nat) (cells : List α) : Nat → α :=
  fun i => if start ≤ i then (cells[i - start]?).getD (mem i) else mem i

/-- The `count` consecutive cells from `start` on. -/
def slice (mem : Nat → α) (start count : Nat) : List α :=
  (List.range count).map fun i => mem (start + i)

/-- The memory spells `cells` from `start` on. -/
def Holds (mem : Nat → α) (start : Nat) (cells : List α) : Prop :=
  ∀ i (inside : i < cells.length), mem (start + i) = cells[i]

theorem write_outside {mem : Nat → α} {start : Nat} {cells : List α} {i : Nat}
    (outside : i < start ∨ start + cells.length ≤ i) : write mem start cells i = mem i := by
  rw [write]
  split
  · rw [List.getElem?_eq_none (by omega)]
    rfl
  · rfl

theorem holds_write (mem : Nat → α) (start : Nat) (cells : List α) :
    Holds (write mem start cells) start cells := by
  intro i inside
  simp [write, inside]

@[simp] theorem write_nil (mem : Nat → α) (start : Nat) : write mem start [] = mem := by
  funext i
  exact write_outside (by simp; omega)

/-- A block write is a write of its first part followed by a write of the rest. -/
theorem write_append (mem : Nat → α) (start : Nat) (left right : List α) :
    write mem start (left ++ right) =
      write (write mem start left) (start + left.length) right := by
  funext i
  simp only [write]
  by_cases before : i < start
  · simp [Nat.not_le.mpr before, show ¬ start + left.length ≤ i by omega]
  · by_cases inLeft : i - start < left.length
    · rw [if_pos (by omega), if_neg (by omega), if_pos (by omega),
        List.getElem?_append_left inLeft]
    · have outLeft : left.length ≤ i - start := by omega
      rw [if_pos (by omega), if_pos (by omega), if_pos (by omega),
        List.getElem?_append_right outLeft, List.getElem?_eq_none outLeft, Nat.sub_sub]
      rfl

theorem write_cons (mem : Nat → α) (start : Nat) (cell : α) (cells : List α) :
    write mem start (cell :: cells) = write (write mem start [cell]) (start + 1) cells := by
  simpa using write_append mem start [cell] cells

theorem holds_append {mem : Nat → α} {start : Nat} {left right : List α} :
    Holds mem start (left ++ right) ↔
      Holds mem start left ∧ Holds mem (start + left.length) right := by
  constructor
  · intro holds
    refine ⟨fun i inside => ?_, fun i inside => ?_⟩
    · rw [holds i (by simp; omega), List.getElem_append_left inside]
    · rw [Nat.add_assoc, holds (left.length + i) (by simpa using inside),
        List.getElem_append_right (by omega)]
      simp
  · rintro ⟨front, back⟩ i inside
    by_cases inLeft : i < left.length
    · rw [front i inLeft, List.getElem_append_left inLeft]
    · have shifted := back (i - left.length) (by simp at inside; omega)
      rw [List.getElem_append_right (by omega), ← shifted]
      congr 1
      omega

theorem holds_cons {mem : Nat → α} {start : Nat} {cell : α} {cells : List α} :
    Holds mem start (cell :: cells) ↔ mem start = cell ∧ Holds mem (start + 1) cells := by
  rw [show cell :: cells = [cell] ++ cells from rfl, holds_append]
  constructor
  · rintro ⟨head, rest⟩
    exact ⟨by simpa using head 0 (by simp), by simpa using rest⟩
  · rintro ⟨head, rest⟩
    refine ⟨fun i inside => ?_, by simpa using rest⟩
    obtain rfl : i = 0 := by simpa using inside
    simpa using head

theorem Holds.congr {mem mem' : Nat → α} {start : Nat} {cells : List α}
    (holds : Holds mem start cells)
    (agree : ∀ i, start ≤ i → i < start + cells.length → mem' i = mem i) :
    Holds mem' start cells := by
  intro i inside
  rw [agree (start + i) (by omega) (by omega)]
  exact holds i inside

theorem Holds.slice_eq {mem : Nat → α} {start : Nat} {cells : List α}
    (holds : Holds mem start cells) : slice mem start cells.length = cells := by
  apply List.ext_getElem (by simp [slice])
  intro i _ inside
  simpa [slice] using holds i inside

end Memory
