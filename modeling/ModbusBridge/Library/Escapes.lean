import Mathlib.Data.List.Infix

/-!
# Escapes

Some symbols are replaced by codes, which all start with the same mark. The mark has a code itself
and no code is a prefix of another, so that the codes can be told from the rest of the text, and
replacing them by their symbols gives back the text.
-/

/-- Symbols and their codes. -/
structure Escapes (α : Type*) where
  table : List (α × List α)
  mark : α
  marked : ∀ pair ∈ table, pair.2.head? = some mark
  markedOnce : ∀ pair ∈ table, mark ∉ pair.2.tail
  covered : ∃ code, (mark, code) ∈ table
  prefixFree : ∀ pair ∈ table, ∀ other ∈ table, pair.2 <+: other.2 → pair = other

namespace Escapes

variable {α : Type*} {escapes : Escapes α} {symbol : α} {text front back : List α}
  {pair : α × List α}

theorem exists_cons_of_mem (coded : pair ∈ escapes.table) :
    ∃ rest, pair.2 = escapes.mark :: rest ∧ escapes.mark ∉ rest := by
  obtain ⟨rest, starts⟩ := List.head?_eq_some_iff.mp (escapes.marked pair coded)
  have once := escapes.markedOnce pair coded
  rw [starts] at once
  exact ⟨rest, starts, once⟩

/-- A symbol without a code is not the mark. -/
theorem ne_mark_of_not_coded (free : ∀ pair ∈ escapes.table, symbol ≠ pair.1) :
    symbol ≠ escapes.mark := by
  obtain ⟨code, coded⟩ := escapes.covered
  exact free _ coded

variable [DecidableEq α]

section

variable (escapes : Escapes α)

/-- What is written for a symbol. -/
def code (symbol : α) : List α := (escapes.table.lookup symbol).getD [symbol]

/-- The text with codes. -/
def escape (text : List α) : List α := text.flatMap escapes.code

/-- The text with the symbols of its codes, where so many symbols of a code have still to be
skipped. -/
def unescapeFrom : Nat → List α → List α
  | _, [] => []
  | skipped + 1, _ :: rest => unescapeFrom skipped rest
  | 0, symbol :: rest =>
      match escapes.table.find? fun pair => pair.2.isPrefixOf (symbol :: rest) with
      | some pair => pair.1 :: unescapeFrom (pair.2.length - 1) rest
      | none => symbol :: unescapeFrom 0 rest

/-- The text with the symbols of its codes. -/
def unescape (text : List α) : List α := escapes.unescapeFrom 0 text

end

theorem code_cases (escapes : Escapes α) (symbol : α) :
    (symbol, escapes.code symbol) ∈ escapes.table ∨
      escapes.code symbol = [symbol] ∧ ∀ pair ∈ escapes.table, symbol ≠ pair.1 := by
  rw [code]
  cases found : escapes.table.lookup symbol with
  | some written =>
      obtain ⟨early, late, split, -⟩ := List.lookup_eq_some_iff.mp found
      exact .inl (by rw [split]; simp)
  | none => exact .inr ⟨rfl, by simpa using List.lookup_eq_none_iff.mp found⟩

theorem escape_cons (symbol : α) (text : List α) :
    escapes.escape (symbol :: text) = escapes.code symbol ++ escapes.escape text :=
  List.flatMap_cons

/-! ## Reading the codes -/

theorem unescapeFrom_length (skipped text : List α) :
    escapes.unescapeFrom skipped.length (skipped ++ text) = escapes.unescape text := by
  induction skipped with
  | nil => rfl
  | cons symbol skipped induction => exact induction

/-- A code is read as its symbol, since nothing else that starts there is a code. -/
theorem find_code (coded : pair ∈ escapes.table) (text : List α) :
    escapes.table.find? (fun other => other.2.isPrefixOf (pair.2 ++ text)) = some pair := by
  have starts : pair.2.isPrefixOf (pair.2 ++ text) = true :=
    List.isPrefixOf_iff_prefix.mpr (List.prefix_append _ _)
  cases found : escapes.table.find? fun other => other.2.isPrefixOf (pair.2 ++ text) with
  | none => exact absurd starts (by simpa using List.find?_eq_none.mp found pair coded)
  | some other =>
      have listed := List.mem_of_find?_eq_some found
      have other_starts : other.2 <+: pair.2 ++ text := by
        simpa using List.find?_some found
      rcases List.prefix_or_prefix_of_prefix other_starts (List.prefix_append _ _) with early | late
      · rw [escapes.prefixFree other listed pair coded early]
      · rw [escapes.prefixFree pair coded other listed late]

theorem find_eq_none (other : symbol ≠ escapes.mark) (text : List α) :
    escapes.table.find? (fun pair => pair.2.isPrefixOf (symbol :: text)) = none := by
  rw [List.find?_eq_none]
  intro pair coded starts
  obtain ⟨rest, split, -⟩ := exists_cons_of_mem coded
  rw [split, List.isPrefixOf_iff_prefix, List.cons_prefix_cons] at starts
  exact other starts.1.symm

/-- Reading the codes of a text gives back the text. -/
theorem unescape_escape (escapes : Escapes α) (text : List α) :
    escapes.unescape (escapes.escape text) = text := by
  induction text with
  | nil => rfl
  | cons symbol text induction =>
      rw [escape_cons]
      rcases escapes.code_cases symbol with coded | ⟨same, free⟩
      · have found := find_code coded (escapes.escape text)
        obtain ⟨rest, split, -⟩ := exists_cons_of_mem coded
        dsimp only at found split
        rw [split, List.cons_append] at found ⊢
        rw [unescape, unescapeFrom, found]
        dsimp only
        rw [List.length_cons, Nat.add_sub_cancel, unescapeFrom_length, induction]
      · rw [same, List.singleton_append, unescape, unescapeFrom,
          find_eq_none (ne_mark_of_not_coded free)]
        exact congrArg (symbol :: ·) induction

/-! ## What is left in a text with codes -/

/-- A symbol that has a code and is in no code is gone. -/
theorem not_mem_escape (coded : ∃ code, (symbol, code) ∈ escapes.table)
    (absent : ∀ pair ∈ escapes.table, symbol ∉ pair.2) (text : List α) :
    symbol ∉ escapes.escape text := by
  intro member
  obtain ⟨other, -, member⟩ := List.mem_flatMap.mp member
  rcases escapes.code_cases other with coded | ⟨same, free⟩
  · exact absent _ coded member
  · obtain ⟨code, coded⟩ := coded
    rw [same, List.mem_singleton] at member
    exact free _ coded member.symm

/-- Every mark starts a code. -/
theorem exists_code_of_mark (split : escapes.escape text = front ++ escapes.mark :: back) :
    ∃ pair ∈ escapes.table, pair.2 <+: escapes.mark :: back := by
  induction text generalizing front with
  | nil => simp [escape] at split
  | cons symbol text induction =>
      rw [escape_cons] at split
      obtain ⟨more, rfl, later⟩ | ⟨more, early, later⟩ := List.append_eq_append_iff.mp split
      · exact induction later
      · cases more with
        | nil => exact @induction [] later.symm
        | cons first more =>
            obtain ⟨rfl, rfl⟩ := List.cons.inj later
            rcases escapes.code_cases symbol with coded | ⟨same, free⟩
            · obtain ⟨rest, starts, once⟩ := exists_cons_of_mem coded
              dsimp only at starts
              cases front with
              | nil => exact ⟨_, coded, by simp [early]⟩
              | cons other front =>
                  -- The mark would stand in the middle of a code.
                  obtain ⟨-, rfl⟩ := List.cons.inj (starts.symm.trans early)
                  simp at once
            · have marked : escapes.mark ∈ escapes.code symbol := by simp [early]
              rw [same, List.mem_singleton] at marked
              exact absurd marked.symm (ne_mark_of_not_coded free)

end Escapes
