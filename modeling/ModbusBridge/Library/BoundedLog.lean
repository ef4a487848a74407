import Mathlib.Data.List.DropRight

/-!
# Bounded logs

A log of a fixed size that gives up its oldest entry for a new one holds the last entries that were
added. Where the entries come in groups and the size is a number of whole groups, the log holds the
last groups.
-/

namespace BoundedLog

variable {α β : Type*} {size : Nat}

/-- A new entry: the oldest one goes when the log is full. -/
def push (size : Nat) (log : List α) (entry : α) : List α :=
  (if log.length ≥ size then log.drop 1 else log) ++ [entry]

theorem rtake_eq_self {entries : List α} (few : entries.length ≤ size) :
    entries.rtake size = entries := by
  rw [List.rtake, Nat.sub_eq_zero_of_le few, List.drop_zero]

theorem length_rtake (entries : List α) (size : Nat) :
    (entries.rtake size).length = min size entries.length := by
  rw [List.rtake, List.length_drop]
  omega

/-- The last entries stay the last ones when the next one comes in. -/
theorem push_rtake (some_room : 0 < size) (entries : List α) (entry : α) :
    push size (entries.rtake size) entry = (entries ++ [entry]).rtake size := by
  obtain ⟨rest, rfl⟩ : ∃ rest, size = rest + 1 := ⟨size - 1, by omega⟩
  rw [push, length_rtake, List.rtake_concat_succ]
  congr 1
  rcases Nat.lt_or_ge entries.length (rest + 1) with few | many
  · rw [if_neg (by omega), rtake_eq_self few.le, rtake_eq_self (by omega)]
  · rw [if_pos (by omega), List.rtake, List.rtake, List.drop_drop]
    congr 1
    omega

theorem foldl_push (some_room : 0 < size) (entries added : List α) :
    added.foldl (push size) (entries.rtake size) = (entries ++ added).rtake size := by
  induction added generalizing entries with
  | nil => rw [List.append_nil, List.foldl_nil]
  | cons entry added induction =>
      rw [List.foldl_cons, push_rtake some_room, induction, List.append_assoc,
        List.singleton_append]

/-- The last entries of whole groups are those of the last groups. -/
theorem rtake_flatMap {group : β → List α} {width : Nat}
    (each : ∀ element, (group element).length = width) (groups : List β) (kept : Nat) :
    (groups.flatMap group).rtake (width * kept) = (groups.rtake kept).flatMap group := by
  induction groups using List.reverseRecOn generalizing kept with
  | nil => rw [List.rtake_nil, List.flatMap_nil, List.rtake_nil]
  | append_singleton groups last induction =>
      cases kept with
      | zero => rw [Nat.mul_zero, List.rtake_zero, List.rtake_zero, List.flatMap_nil]
      | succ kept =>
          rw [List.flatMap_append, List.flatMap_singleton, List.rtake_concat_succ,
            List.flatMap_append, List.flatMap_singleton, ← induction kept, List.rtake, List.rtake,
            List.length_append, each last, Nat.mul_succ, Nat.add_sub_add_right,
            List.drop_append_of_le_length (Nat.sub_le _ _)]

end BoundedLog
