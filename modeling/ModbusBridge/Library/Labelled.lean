import Mathlib.Data.List.Basic
import Mathlib.Data.List.TakeWhile

/-!
# Numbers behind labels

Texts that are made of labels with a number behind each. If no number runs into the label that
follows it, the numbers are read back.
-/

namespace Labelled

variable {α : Type*}

/-- A way to write numbers: digits, at least one, from which the number is read. -/
structure Numeral (α : Type*) where
  write : Nat → List α
  isDigit : α → Bool
  read : List α → Nat
  nonempty : ∀ n, write n ≠ []
  digits : ∀ n, ∀ symbol ∈ write n, isDigit symbol = true
  inverse : ∀ n, read (write n) = n

namespace Numeral

variable (numeral : Numeral α) {rest : List α}

/-- No digit comes first. -/
def Ends (text : List α) : Prop := ∀ symbol ∈ text.head?, numeral.isDigit symbol = false

instance : DecidablePred numeral.Ends := fun text =>
  inferInstanceAs (Decidable (∀ symbol ∈ text.head?, numeral.isDigit symbol = false))

/-- The number at the start, and what follows it. -/
def parse (text : List α) : Option (Nat × List α) :=
  let digits := text.takeWhile numeral.isDigit
  if digits.isEmpty then none else some (numeral.read digits, text.drop digits.length)

theorem parse_write (ends : numeral.Ends rest) (number : Nat) :
    numeral.parse (numeral.write number ++ rest) = some (number, rest) := by
  have taken : (numeral.write number ++ rest).takeWhile numeral.isDigit =
      numeral.write number := by
    rw [List.takeWhile_append_of_pos (numeral.digits number)]
    cases rest with
    | nil => rw [List.takeWhile_nil, List.append_nil]
    | cons first rest =>
        rw [List.takeWhile_cons_of_neg (by simp [ends first rfl]), List.append_nil]
  rw [parse, taken, if_neg (by simp [numeral.nonempty number]), numeral.inverse, List.drop_left]

end Numeral

/-- A label, and how the number behind it is written. -/
structure Item (α : Type*) where
  label : List α
  numeral : Numeral α

/-- A number does not run into the next label, nor the last one into what follows. -/
def Separated : List (Item α) → List α → Prop
  | [], _ => True
  | [item], rest => item.numeral.Ends rest
  | item :: next :: items, rest =>
      (next.label ≠ [] ∧ item.numeral.Ends next.label) ∧ Separated (next :: items) rest

/-- The items with these numbers. -/
def write : List (Item α) → List Nat → List α
  | item :: items, number :: numbers =>
      item.label ++ (item.numeral.write number ++ write items numbers)
  | _, _ => []

variable [DecidableEq α]

/-- What follows a label. -/
def skip (label text : List α) : Option (List α) :=
  if label.isPrefixOf text then some (text.drop label.length) else none

/-- The numbers of the items, and what follows the last one. -/
def read : List (Item α) → List α → Option (List Nat × List α)
  | [], text => some ([], text)
  | item :: items, text => do
      let body ← skip item.label text
      let first ← item.numeral.parse body
      let others ← read items first.2
      some (first.1 :: others.1, others.2)

theorem skip_append (label rest : List α) : skip label (label ++ rest) = some rest := by
  rw [skip, if_pos (List.isPrefixOf_iff_prefix.mpr (List.prefix_append label rest)),
    List.drop_left]

/-- Each number ends where the next label starts. -/
theorem read_write {items : List (Item α)} {rest : List α} (separated : Separated items rest)
    {numbers : List Nat} (same : items.length = numbers.length) :
    read items (write items numbers ++ rest) = some (numbers, rest) := by
  induction items generalizing numbers with
  | nil =>
      obtain rfl := List.length_eq_zero_iff.mp same.symm
      rfl
  | cons item items induction =>
      obtain ⟨number, numbers, rfl⟩ := List.exists_cons_of_length_eq_add_one same.symm
      rw [List.length_cons, List.length_cons, Nat.add_right_cancel_iff] at same
      rw [write, List.append_assoc, List.append_assoc, read, skip_append]
      cases items with
      | nil =>
          obtain rfl := List.length_eq_zero_iff.mp same.symm
          have first := item.numeral.parse_write separated number
          simp [write, read, first]
      | cons next items =>
          obtain ⟨⟨labelled, ends⟩, others⟩ := separated
          obtain ⟨second, numbers, rfl⟩ := List.exists_cons_of_length_eq_add_one same.symm
          have later := induction others same
          have apart : item.numeral.Ends (write (next :: items) (second :: numbers) ++ rest) := by
            intro symbol starts
            rw [write, List.append_assoc, List.head?_append_of_ne_nil _ labelled] at starts
            exact ends symbol starts
          have first := item.numeral.parse_write apart number
          simp [first, later]

end Labelled
