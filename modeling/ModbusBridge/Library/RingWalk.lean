import ModbusBridge.Library.BlockRing

/-!
# Walks through a ring

A walk goes from block to block of a circular memory by the sizes that the memory tells, whatever
the memory holds. It goes on while the size of the next block is neither zero nor larger than what
is left to walk. A queue of blocks that tell their own sizes is walked to its end.
-/

namespace BlockRing

/-- From `start` with `left` cells to walk, the walk visits the blocks at `places` and stands at
`stop` with `rest` cells to walk. -/
inductive Walk (cap : Nat) (size : Nat → Nat) : Nat → Nat → List Nat → Nat → Nat → Prop
  | nil (start left : Nat) : Walk cap size start left [] start left
  | cons {start left stop rest : Nat} {places : List Nat} :
      0 < size start → size start ≤ left →
      Walk cap size ((start + size start) % cap) (left - size start) places stop rest →
      Walk cap size start left (start :: places) stop rest

namespace Walk

variable {cap : Nat} {size : Nat → Nat} {start left stop rest : Nat} {places : List Nat}

theorem rest_le (walk : Walk cap size start left places stop rest) : rest ≤ left := by
  induction walk with
  | nil => exact le_rfl
  | cons _ _ _ induction => exact induction.trans (Nat.sub_le _ _)

/-- Where a walk stands follows from how far it has come. -/
theorem stop_eq (walk : Walk cap size start left places stop rest) (inside : start < cap) :
    stop = (start + (left - rest)) % cap := by
  induction walk with
  | nil => rw [Nat.sub_self, Nat.add_zero, Nat.mod_eq_of_lt inside]
  | cons _ small walk induction =>
      have later := walk.rest_le
      rw [induction (Nat.mod_lt _ (by omega)), Nat.mod_add_mod]
      congr 1
      omega

/-- Where a walk that can be walked to its end stands, the next size is consistent. -/
theorem size_le {all : List Nat} {last : Nat} (whole : Walk cap size start left all last 0)
    (walk : Walk cap size start left places stop rest) (more : 0 < rest) :
    0 < size stop ∧ size stop ≤ rest := by
  induction walk generalizing all with
  | nil =>
      cases whole with
      | nil => exact absurd more (Nat.lt_irrefl 0)
      | cons positive small _ => exact ⟨positive, small⟩
  | cons positive _ _ induction =>
      cases whole with
      | nil => omega
      | cons _ _ whole => exact induction whole more

/-- What holds somewhere on a walk holds at once, or later. -/
theorem exists_iff {holds : Nat → Nat → Prop} :
    (∃ places stop rest, Walk cap size start left places stop rest ∧ holds stop rest) ↔
      holds start left ∨ (0 < size start ∧ size start ≤ left) ∧
        ∃ places stop rest, Walk cap size ((start + size start) % cap) (left - size start)
          places stop rest ∧ holds stop rest := by
  constructor
  · rintro ⟨places, stop, rest, walk, there⟩
    cases walk with
    | nil => exact .inl there
    | cons positive small walk => exact .inr ⟨⟨positive, small⟩, _, _, _, walk, there⟩
  · rintro (now | ⟨⟨positive, small⟩, places, stop, rest, walk, there⟩)
    · exact ⟨_, _, _, .nil _ _, now⟩
    · exact ⟨_, _, _, .cons positive small walk, there⟩

end Walk

variable {α β : Type*} {layout : Layout α β} {mem : Nat → α} {size : Nat → Nat}

/-- A queue whose blocks tell their sizes is walked from block to block to its end. -/
theorem Chain.walk {start stop : Nat} {blocks : List β} (chain : Chain layout mem start blocks stop)
    (told : ∀ {place block}, layout.Held mem place block → size place = layout.size block) :
    ∃ places, Walk layout.cap size start (layout.total blocks) places stop 0 ∧
      List.Forall₂ (layout.Held mem) places blocks := by
  induction chain with
  | nil start => exact ⟨[], .nil start 0, .nil⟩
  | @cons start stop block blocks held _ induction =>
      obtain ⟨places, walk, lie⟩ := induction
      refine ⟨start :: places, .cons ?_ ?_ ?_, .cons held lie⟩
      · rw [told held]
        exact layout.size_pos held
      · rw [told held, layout.total_cons]
        exact Nat.le_add_right _ _
      · rw [told held, layout.total_cons, Nat.add_sub_cancel_left]
        exact walk

end BlockRing
