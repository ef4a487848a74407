import Mathlib.Data.List.Range
import Mathlib.Data.List.Rotate
import Mathlib.Logic.Function.Basic

/-!
# Calls inside calls, and a ring that they write

A call that writes an entry at a cursor and moves the cursor only when it ends may be called again
in between. Numbered in the order in which they start, the calls write at the positions that they
should have, up to the depth at which each of them is made.
-/

universe u v

/-! ## Calls -/

/-- Calls one after another, each with the calls that are made inside it. -/
inductive Calls (α : Type u)
  | done
  | call (argument : α) (inside later : Calls α)

namespace Calls

variable {α : Type u} {β : Type v} {σ : Type*}

/-- What the calls come to. The body of a call gets what the calls inside it do. -/
def run (body : α → (σ → σ) → σ → σ) : Calls α → σ → σ
  | done, state => state
  | call argument inside later, state => run body later (body argument (run body inside) state)

/-- The arguments, in the order in which the calls start. -/
def arguments : Calls α → List α
  | done => []
  | call argument inside later => argument :: (inside.arguments ++ later.arguments)

/-- How many calls are unfinished when each call starts. -/
def depths : Calls α → Nat → List Nat
  | done, _ => []
  | call _ inside later, depth => depth :: (inside.depths (depth + 1) ++ later.depths depth)

/-- How many calls are finished when each call starts. -/
def finished : Calls α → Nat → List Nat
  | done, _ => []
  | call _ inside later, before =>
      before :: (inside.finished before ++ later.finished (before + inside.arguments.length + 1))

/-- Calls in the same order and depths, with arguments by their number. -/
def relabel (label : Nat → β) : Calls α → Nat → Calls β
  | done, _ => done
  | call _ inside later, number =>
      call (label number) (inside.relabel label (number + 1))
        (later.relabel label (number + 1 + inside.arguments.length))

@[simp]
theorem length_depths (calls : Calls α) (depth : Nat) :
    (calls.depths depth).length = calls.arguments.length := by
  induction calls generalizing depth with
  | done => rfl
  | call argument inside later insideInduction laterInduction =>
      simp [depths, arguments, insideInduction, laterInduction]

@[simp]
theorem length_finished (calls : Calls α) (before : Nat) :
    (calls.finished before).length = calls.arguments.length := by
  induction calls generalizing before with
  | done => rfl
  | call argument inside later insideInduction laterInduction =>
      simp [finished, arguments, insideInduction, laterInduction]

/-- When a call starts, the calls that have started before are finished or not. -/
theorem zipWith_finished_depths (calls : Calls α) (before depth : Nat) :
    List.zipWith (· + ·) (calls.finished before) (calls.depths depth) =
      List.range' (before + depth) calls.arguments.length := by
  induction calls generalizing before depth with
  | done => rfl
  | call argument inside later insideInduction laterInduction =>
      rw [finished, depths, List.zipWith_cons_cons, List.zipWith_append (by simp),
        insideInduction, laterInduction, arguments, List.length_cons, List.length_append,
        List.range'_succ, ← List.range'_append_1]
      congr 3
      omega

theorem finished_add_depth (calls : Calls α) {number : Nat}
    (inside : number < (calls.finished 0).length) (inside' : number < (calls.depths 0).length) :
    (calls.finished 0)[number] + (calls.depths 0)[number] = number := by
  have sums := zipWith_finished_depths calls 0 0
  have sum := List.getElem_of_eq sums (i := number) (by simpa using inside)
  simpa using sum

theorem arguments_relabel (label : Nat → β) (calls : Calls α) (number : Nat) :
    (calls.relabel label number).arguments =
      (List.range' number calls.arguments.length).map label := by
  induction calls generalizing number with
  | done => rfl
  | call argument inside later insideInduction laterInduction =>
      rw [relabel, arguments, insideInduction, laterInduction, arguments, List.length_cons,
        List.length_append, List.range'_succ, ← List.range'_append_1, List.map_cons,
        List.map_append]

theorem depths_relabel (label : Nat → β) (calls : Calls α) (number depth : Nat) :
    (calls.relabel label number).depths depth = calls.depths depth := by
  induction calls generalizing number depth with
  | done => rfl
  | call argument inside later insideInduction laterInduction =>
      rw [relabel, depths, insideInduction, laterInduction, depths]

theorem finished_relabel (label : Nat → β) (calls : Calls α) (number before : Nat) :
    (calls.relabel label number).finished before = calls.finished before := by
  induction calls generalizing number before with
  | done => rfl
  | call argument inside later insideInduction laterInduction =>
      rw [relabel, finished, insideInduction, laterInduction, arguments_relabel, List.length_map,
        List.length_range', finished]

end Calls

/-! ## Rings -/

namespace Ring

variable {α : Type u} {width slot : Nat} {writes : List (Nat × α)} {slots : Nat → α}
  {logged : List α}

/-- Entries are written one after another, each at a position modulo the width. -/
def writeAll (width : Nat) : List (Nat × α) → (Nat → α) → Nat → α
  | [], slots => slots
  | write :: writes, slots =>
      writeAll width writes (Function.update slots (write.1 % width) write.2)

/-- The ring holds the last entries, each at its own number modulo the width. -/
def Recent (width : Nat) (slots : Nat → α) (logged : List α) : Prop :=
  ∀ number, ∀ inside : number < logged.length, logged.length ≤ number + width →
    slots (number % width) = logged[number]

theorem writeAll_append (early late : List (Nat × α)) (slots : Nat → α) :
    writeAll width (early ++ late) slots = writeAll width late (writeAll width early slots) := by
  induction early generalizing slots with
  | nil => rfl
  | cons write early induction => exact induction _

/-- A slot at which nothing is written keeps its entry. -/
theorem writeAll_of_ne (others : ∀ write ∈ writes, write.1 % width ≠ slot) :
    writeAll width writes slots slot = slots slot := by
  induction writes generalizing slots with
  | nil => rfl
  | cons write writes induction =>
      rw [List.forall_mem_cons] at others
      rw [writeAll, induction others.2, Function.update_of_ne others.1.symm]

/-- A slot holds what it held, or an entry that is written there. -/
theorem writeAll_cases (writes : List (Nat × α)) (slots : Nat → α) (slot : Nat) :
    writeAll width writes slots slot = slots slot ∨
      ∃ write ∈ writes, write.1 % width = slot ∧ writeAll width writes slots slot = write.2 := by
  induction writes generalizing slots with
  | nil => exact .inl rfl
  | cons write writes induction =>
      rw [writeAll]
      rcases induction (Function.update slots (write.1 % width) write.2) with
        kept | ⟨later, member, found⟩
      · rw [kept]
        by_cases here : write.1 % width = slot
        · subst here
          exact .inr ⟨write, List.mem_cons_self, rfl, Function.update_self ..⟩
        · exact .inl (Function.update_of_ne (Ne.symm here) ..)
      · exact .inr ⟨later, List.mem_cons_of_mem _ member, found⟩

theorem mod_ne_of_close {early late : Nat} (before : early < late) (close : late < early + width) :
    late % width ≠ early % width := by
  intro same
  have zero := Nat.sub_mod_eq_zero_of_mod_eq same
  rw [Nat.mod_eq_of_lt (by omega)] at zero
  omega

/-- Entries whose last `width` are written at their own numbers are there. -/
theorem recent_writeAll
    (placed : ∀ number, ∀ inside : number < writes.length, writes.length ≤ number + width →
      writes[number].1 % width = number % width) :
    Recent width (writeAll width writes slots) (writes.map Prod.snd) := by
  intro number inside recent
  rw [List.length_map] at inside recent
  have here := placed number inside recent
  have others : ∀ write ∈ writes.drop (number + 1), write.1 % width ≠ number % width := by
    intro write member
    obtain ⟨i, within, rfl⟩ := List.mem_iff_getElem.mp member
    rw [List.length_drop] at within
    rw [List.getElem_drop, placed _ (by omega) (by omega)]
    exact mod_ne_of_close (by omega) (by omega)
  have parts : writes = writes.take number ++ writes[number] :: writes.drop (number + 1) := by
    rw [← List.drop_eq_getElem_cons, List.take_append_drop]
  rw [List.getElem_map]
  generalize writes[number] = write at here parts
  rw [parts, writeAll_append, writeAll, writeAll_of_ne others, ← here, Function.update_self]

/-- When one of the last entries is marked and the ring still holds them, that entry is written at
its own number. -/
theorem placed_of_recent {positions : List Nat} {marked blank : α}
    (unmarked : ∀ slot, slots slot ≠ marked) (distinct : blank ≠ marked) {number : Nat}
    (inside : number < positions.length) (last : positions.length ≤ number + width)
    (recent : Recent width
      (writeAll width (positions.zip ((List.range positions.length).map
        fun i => if i = number then marked else blank)) slots)
      ((List.range positions.length).map fun i => if i = number then marked else blank)) :
    positions[number] % width = number % width := by
  have found := recent number (by simpa) (by simpa)
  rcases writeAll_cases (positions.zip ((List.range positions.length).map
      fun i => if i = number then marked else blank)) slots (number % width) with
    kept | ⟨write, member, here, written⟩
  · rw [kept] at found
    exact absurd (by simpa using found) (unmarked _)
  · obtain ⟨i, within, rfl⟩ := List.mem_iff_getElem.mp member
    rw [found] at written
    obtain rfl : i = number := by
      by_contra other
      simp [other] at written
      exact distinct written.symm
    simpa using here

/-- The ring is read from the entry that is so many entries before the end. -/
theorem Recent.read (recent : Recent width slots logged) {start count : Nat}
    (enough : count ≤ logged.length) (fits : count ≤ width)
    (starts : start % width = (logged.length - count) % width) :
    (List.range count).map (fun i => slots ((start + i) % width)) =
      logged.drop (logged.length - count) := by
  refine List.ext_getElem (by simp; omega) fun i inside _ => ?_
  rw [List.length_map, List.length_range] at inside
  have slot : (start + i) % width = (logged.length - count + i) % width := by
    rw [Nat.add_mod, starts, ← Nat.add_mod]
  rw [List.getElem_map, List.getElem_range, slot, List.getElem_drop]
  exact recent _ (by omega) (by omega)

/-- Reading the whole ring from anywhere finds every slot once. -/
theorem read_perm (slots : Nat → α) (start : Nat) :
    ((List.range width).map fun i => slots ((start + i) % width)).Perm
      ((List.range width).map slots) := by
  have rotated : ((List.range width).map fun i => (start + i) % width) =
      (List.range width).rotate start := by
    refine List.ext_getElem (by simp) fun i inside _ => ?_
    rw [List.getElem_rotate]
    simp [Nat.add_comm]
  have turned := ((List.range width).rotate_perm start).map slots
  rwa [← rotated, List.map_map] at turned

/-- A ring that is read right as far as it reaches holds the last entries. -/
theorem recent_of_read {start : Nat}
    (starts : start % width = (logged.length - min logged.length width) % width)
    (read : (List.range (min logged.length width)).map (fun i => slots ((start + i) % width)) =
      logged.drop (logged.length - min logged.length width)) : Recent width slots logged := by
  intro number inside last
  have entry := List.getElem_of_eq read
    (i := number - (logged.length - min logged.length width)) (by simp; omega)
  rw [List.getElem_map, List.getElem_range, List.getElem_drop, Nat.add_mod, starts,
    ← Nat.add_mod] at entry
  have same : logged.length - min logged.length width +
      (number - (logged.length - min logged.length width)) = number := by omega
  simpa only [same] using entry

end Ring
