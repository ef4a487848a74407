import Mathlib.Data.List.Basic
import Mathlib.Data.Nat.ModEq
import Mathlib.Algebra.BigOperators.Group.List.Basic

/-!
# Rings of contiguous blocks

A circular memory of `cap` cells queues blocks of varying sizes. No block straddles the end of the
memory. `Chain layout mem start blocks stop` walks the queue from its oldest block at `start` to the
first free cell `stop`. The frame theorem `Chain.write_free` says that a contiguous write into the
free cells after `stop` leaves the queue as it was.
-/

namespace BlockRing

/-- How the blocks of a queue lie in a circular memory of `cap` cells. -/
structure Layout (α β : Type*) where
  /-- Number of cells of the circular memory. -/
  cap : Nat
  /-- Number of cells that a block takes. -/
  size : β → Nat
  /-- The block lies in the memory from the given cell on. -/
  Held : (Nat → α) → Nat → β → Prop
  size_pos : ∀ {mem start block}, Held mem start block → 0 < size block
  fits : ∀ {mem start block}, Held mem start block → start + size block ≤ cap
  congr : ∀ {mem mem' start block}, Held mem start block →
    (∀ i, start ≤ i → i < start + size block → mem' i = mem i) → Held mem' start block

namespace Layout

variable {α β : Type*} (layout : Layout α β)

/-- Cells taken by a list of blocks. -/
def total (blocks : List β) : Nat := (blocks.map layout.size).sum

@[simp] theorem total_nil : layout.total [] = 0 := rfl

@[simp] theorem total_cons (block : β) (blocks : List β) :
    layout.total (block :: blocks) = layout.size block + layout.total blocks := by
  simp [total]

@[simp] theorem total_append (left right : List β) :
    layout.total (left ++ right) = layout.total left + layout.total right := by
  simp [total]

end Layout

/-- The blocks lie one after the other from `start` on, and `stop` is the cell after the last. -/
inductive Chain {α β : Type*} (layout : Layout α β) (mem : Nat → α) :
    Nat → List β → Nat → Prop
  | nil (start : Nat) : Chain layout mem start [] start
  | cons {start stop : Nat} {block : β} {blocks : List β} :
      layout.Held mem start block →
      Chain layout mem ((start + layout.size block) % layout.cap) blocks stop →
      Chain layout mem start (block :: blocks) stop

namespace Chain

variable {α β : Type*} {layout : Layout α β} {mem mem' : Nat → α}
variable {start middle stop : Nat} {block : β} {blocks left right : List β}

theorem append (first : Chain layout mem start left middle)
    (second : Chain layout mem middle right stop) :
    Chain layout mem start (left ++ right) stop := by
  induction first with
  | nil => exact second
  | cons held _ induction => exact .cons held (induction second)

theorem split (chain : Chain layout mem start (left ++ right) stop) :
    ∃ middle, Chain layout mem start left middle ∧ Chain layout mem middle right stop := by
  induction left generalizing start with
  | nil => exact ⟨start, .nil start, chain⟩
  | cons head tail induction =>
      cases chain with
      | cons held rest =>
          obtain ⟨middle, first, second⟩ := induction rest
          exact ⟨middle, .cons held first, second⟩

theorem snoc (chain : Chain layout mem start blocks stop) (held : layout.Held mem stop block) :
    Chain layout mem start (blocks ++ [block]) ((stop + layout.size block) % layout.cap) :=
  chain.append (.cons held (.nil _))

/-- The end of a chain is determined by its beginning and its cells. -/
theorem stop_eq (chain : Chain layout mem start blocks stop) (inside : start < layout.cap) :
    stop = (start + layout.total blocks) % layout.cap := by
  induction chain with
  | nil => simp [Nat.mod_eq_of_lt inside]
  | @cons start stop block blocks held _ induction =>
      rw [induction (Nat.mod_lt _ (by omega)), layout.total_cons, Nat.mod_add_mod,
        Nat.add_assoc]

theorem stop_lt (chain : Chain layout mem start blocks stop) (inside : start < layout.cap) :
    stop < layout.cap := by
  rw [chain.stop_eq inside]
  exact Nat.mod_lt _ (by omega)

theorem size_pos_of_mem (chain : Chain layout mem start blocks stop) (member : block ∈ blocks) :
    0 < layout.size block := by
  induction chain with
  | nil => simp at member
  | cons held _ induction =>
      rcases List.mem_cons.mp member with rfl | later
      · exact layout.size_pos held
      · exact induction later

theorem length_le_total (chain : Chain layout mem start blocks stop) :
    blocks.length ≤ layout.total blocks := by
  induction chain with
  | nil => simp
  | cons held _ induction =>
      have := layout.size_pos held
      simp
      omega

/-- A chain only depends on the cells of its own blocks. -/
theorem congr (chain : Chain layout mem start blocks stop) (inside : start < layout.cap)
    (agree : ∀ k, k < layout.total blocks →
      mem' ((start + k) % layout.cap) = mem ((start + k) % layout.cap)) :
    Chain layout mem' start blocks stop := by
  induction chain with
  | nil => exact .nil _
  | @cons start stop block blocks held _ induction =>
      have fits := layout.fits held
      have positive := layout.size_pos held
      refine .cons (layout.congr held fun i after before => ?_)
        (induction (Nat.mod_lt _ (by omega)) fun k bound => ?_)
      · have cell := agree (i - start) (by rw [layout.total_cons]; omega)
        rwa [show start + (i - start) = i by omega, Nat.mod_eq_of_lt (by omega)] at cell
      · have cell := agree (layout.size block + k) (by rw [layout.total_cons]; omega)
        rwa [← Nat.add_assoc, ← Nat.mod_add_mod] at cell

/-- Two cells at the same distance from a third one are the same cell. -/
theorem eq_of_add_mod_eq {cap a b distance : Nat} (left : a < cap) (right : b < cap)
    (same : (a + distance) % cap = (b + distance) % cap) : a = b := by
  have congruent : a ≡ b [MOD cap] := Nat.ModEq.add_right_cancel' distance same
  rwa [Nat.ModEq, Nat.mod_eq_of_lt left, Nat.mod_eq_of_lt right] at congruent

/-- A cell whose distance to the end of the queue is that of the last blocks is where they begin. -/
theorem resume {cell : Nat} (chain : Chain layout mem start (left ++ right) stop)
    (inside : start < layout.cap) (cell_lt : cell < layout.cap)
    (ends : (cell + layout.total right) % layout.cap = stop) :
    Chain layout mem cell right stop := by
  obtain ⟨middle, first, second⟩ := chain.split
  have middle_lt := first.stop_lt inside
  obtain rfl : cell = middle :=
    eq_of_add_mod_eq cell_lt middle_lt (ends.trans (second.stop_eq middle_lt))
  exact second

theorem mod_of_lt_two_mul {cap x : Nat} (bound : x < 2 * cap) :
    x % cap = if x < cap then x else x - cap := by
  split
  · exact Nat.mod_eq_of_lt ‹_›
  · rw [Nat.mod_eq_sub_mod (by omega), Nat.mod_eq_of_lt (by omega)]

/-- A contiguous write into the free cells after the last block leaves the chain as it was. -/
theorem write_free (count : Nat) (chain : Chain layout mem start blocks stop)
    (inside : start < layout.cap) (room : layout.total blocks + count ≤ layout.cap)
    (agree : ∀ i, i < layout.cap → (i < stop ∨ stop + count ≤ i) → mem' i = mem i) :
    Chain layout mem' start blocks stop := by
  apply chain.congr inside
  intro k bound
  apply agree _ (Nat.mod_lt _ (by omega))
  rw [chain.stop_eq inside, mod_of_lt_two_mul (x := start + k) (by omega),
    mod_of_lt_two_mul (x := start + layout.total blocks) (by omega)]
  split_ifs <;> omega

end Chain

end BlockRing
