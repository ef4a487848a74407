import Mathlib.Data.List.Basic
import Mathlib.Algebra.GroupWithZero.Nat
import Mathlib.Algebra.Order.Group.Nat

/-!
# Greedy filling

Items of some size are offered to a container one after the other, and it takes each one that still
fits. What it has taken is a prefix of the offer exactly if it never takes anything after it has
turned something away.
-/

namespace Greedy

variable {α : Type*} (size : α → Nat)

/-- The items that a container with the given room takes. -/
def fill : Nat → List α → List α
  | _, [] => []
  | room, item :: items =>
      if size item ≤ room then item :: fill (room - size item) items else fill room items

/-- The room that is left. -/
def left : Nat → List α → Nat
  | room, [] => room
  | room, item :: items =>
      if size item ≤ room then left (room - size item) items else left room items

/-- After the first item that does not fit, no item would fit. -/
def FillsOnce (room : Nat) (items : List α) : Prop :=
  ∀ before item after, items = before ++ item :: after → (before.map size).sum ≤ room →
    room < (before.map size).sum + size item →
      ∀ later ∈ after, room < (before.map size).sum + size later

variable {size} {room : Nat} {item : α} {items : List α}

theorem fill_append (room : Nat) (first second : List α) :
    fill size room (first ++ second) =
      fill size room first ++ fill size (left size room first) second := by
  induction first generalizing room with
  | nil => rfl
  | cons item items induction =>
      simp only [List.cons_append, fill, left]
      split_ifs
      · rw [induction, List.cons_append]
      · exact induction room

/-- What is taken and what is left add up to the room. -/
theorem total_fill (room : Nat) (items : List α) :
    ((fill size room items).map size).sum + left size room items = room := by
  induction items generalizing room with
  | nil => simp [fill, left]
  | cons item items induction =>
      simp only [fill, left]
      split_ifs with fits
      · have rest := induction (room - size item)
        simp only [List.map_cons, List.sum_cons]
        omega
      · exact induction room

theorem left_le (room : Nat) (items : List α) : left size room items ≤ room :=
  Nat.le.intro ((Nat.add_comm _ _).trans (total_fill room items))

theorem size_le_of_mem_fill (member : item ∈ fill size room items) : size item ≤ room := by
  induction items generalizing room with
  | nil => contradiction
  | cons head tail induction =>
      rw [fill] at member
      split_ifs at member with fits
      · rcases List.mem_cons.mp member with rfl | later
        · exact fits
        · exact (induction later).trans (Nat.sub_le _ _)
      · exact induction member

theorem fill_eq_nil_iff : fill size room items = [] ↔ ∀ item ∈ items, room < size item := by
  induction items with
  | nil => simp [fill]
  | cons item items induction =>
      rw [fill, List.forall_mem_cons]
      split_ifs with fits
      · exact iff_of_false not_false fun none => absurd fits (Nat.not_le_of_lt none.1)
      · rw [induction]
        exact (and_iff_right (Nat.lt_of_not_le fits)).symm

theorem fillsOnce_nil : FillsOnce size room [] := by
  intro before item after split
  simp at split

/-- An item that fits comes off the room. -/
theorem fillsOnce_cons (fits : size item ≤ room) :
    FillsOnce size room (item :: items) ↔ FillsOnce size (room - size item) items := by
  constructor
  · intro once before next after split small tooLarge later member
    have beyond := once (item :: before) next after (by rw [split]; rfl)
      (by simp only [List.map_cons, List.sum_cons]; omega)
      (by simp only [List.map_cons, List.sum_cons]; omega) later member
    simp only [List.map_cons, List.sum_cons] at beyond
    omega
  · intro once before next after split small tooLarge later member
    cases before with
    | nil =>
        obtain ⟨rfl, -⟩ := List.cons.inj split
        simp only [List.map_nil, List.sum_nil] at tooLarge
        omega
    | cons head before =>
        obtain ⟨rfl, rest⟩ := List.cons.inj split
        simp only [List.map_cons, List.sum_cons] at small tooLarge ⊢
        have beyond := once before next after rest (by omega) (by omega) later member
        omega

/-- Once an item does not fit, none may. -/
theorem fillsOnce_over (tooLarge : room < size item) :
    FillsOnce size room (item :: items) ↔ ∀ later ∈ items, room < size later := by
  constructor
  · intro once
    simpa using once [] item items rfl (Nat.zero_le _) (by simpa using tooLarge)
  · intro none before next after split small _ later member
    cases before with
    | nil =>
        obtain ⟨rfl, rfl⟩ := List.cons.inj split
        simpa using none later member
    | cons head before =>
        obtain ⟨rfl, -⟩ := List.cons.inj split
        simp only [List.map_cons, List.sum_cons] at small
        omega

/-- What is taken is a prefix of the offer. -/
theorem fill_isPrefix_iff : fill size room items <+: items ↔ FillsOnce size room items := by
  induction items generalizing room with
  | nil => exact iff_of_true (List.prefix_refl _) fillsOnce_nil
  | cons item items induction =>
      rw [fill]
      split_ifs with fits
      · rw [List.prefix_cons_inj, induction, fillsOnce_cons fits]
      · rw [fillsOnce_over (Nat.lt_of_not_le fits), ← fill_eq_nil_iff]
        refine ⟨fun initial => ?_, fun none => none ▸ List.nil_prefix⟩
        cases taken : fill size room items with
        | nil => rfl
        | cons head tail =>
            obtain ⟨rfl, -⟩ := List.cons_prefix_cons.mp (taken ▸ initial)
            exact absurd (size_le_of_mem_fill (by rw [taken]; simp)) fits

/-- A container that fills once takes nothing after it has turned something away. -/
theorem FillsOnce.closed {before between after : List α} {later : α}
    (once : FillsOnce size room (before ++ item :: (between ++ later :: after)))
    (tooLarge : left size room before < size item) :
    left size room (before ++ item :: between) < size later := by
  induction before generalizing room with
  | nil =>
      have none := (fillsOnce_over tooLarge).mp once
      exact (left_le room (item :: between)).trans_lt (none later (by simp))
  | cons head before induction =>
      rw [List.cons_append, left]
      rw [List.cons_append] at once
      rw [left] at tooLarge
      split_ifs at tooLarge ⊢ with fits
      · exact induction ((fillsOnce_cons fits).mp once) tooLarge
      · have none := (fillsOnce_over (Nat.lt_of_not_le fits)).mp once
        exact (left_le room (before ++ item :: between)).trans_lt (none later (by simp))

end Greedy
