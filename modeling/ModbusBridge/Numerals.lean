import ModbusBridge.Text
import Mathlib.Data.Nat.Digits.Defs

/-!
# Numerals

Digits, the most significant first, and the numbers that they denote in a base; and the numerals of
the C functions `strtol` and `strtoul`, which allow more than digits.
-/

namespace Numerals

variable {α : Type*} {digit : α → Option Nat} {base : Nat} {symbols : List α} {n m : Nat}

/-- The number with these digits. -/
def value (digit : α → Option Nat) (base : Nat) (symbols : List α) : Nat :=
  Nat.ofDigits base (symbols.reverse.map fun symbol => (digit symbol).getD 0)

/-- Digits, at least one, and the number that they denote. -/
structure Denotes (digit : α → Option Nat) (base : Nat) (symbols : List α) (n : Nat) : Prop where
  nonempty : symbols ≠ []
  digits : ∀ symbol ∈ symbols, (digit symbol).isSome = true
  number : value digit base symbols = n

/-- Reading from the left. -/
theorem foldl_eq_value (symbols : List α) :
    symbols.foldl (fun number symbol => number * base + (digit symbol).getD 0) 0 =
      value digit base symbols := by
  rw [value, Nat.ofDigits_eq_foldr, List.foldr_map, List.foldr_reverse]
  congr 1
  funext number symbol
  rw [Nat.cast_id, Nat.mul_comm, Nat.add_comm]

theorem Denotes.singleton {symbol : α} (last : digit symbol = some n) :
    Denotes digit base [symbol] n where
  nonempty := List.cons_ne_nil _ _
  digits := by simp [last]
  number := by simp [value, last]

/-- One more digit. -/
theorem Denotes.concat {symbol : α} (front : Denotes digit base symbols n)
    (last : digit symbol = some m) : Denotes digit base (symbols ++ [symbol]) (m + base * n) where
  nonempty := List.append_ne_nil_of_left_ne_nil front.nonempty _
  digits other member := by
    rcases List.mem_append.mp member with early | late
    · exact front.digits other early
    · obtain rfl := List.mem_singleton.mp late
      rw [last]
      rfl
  number := by
    rw [← front.number, value, value, List.reverse_append, List.map_append]
    simp [Nat.ofDigits_cons, last]

theorem drop_takeWhile_eq_nil_iff (accepts : α → Bool) (symbols : List α) :
    symbols.drop (symbols.takeWhile accepts).length = [] ↔
      ∀ symbol ∈ symbols, accepts symbol = true := by
  rw [← List.takeWhile_eq_self_iff, List.drop_eq_nil_iff]
  constructor
  · exact fun long => List.IsPrefix.eq_of_length_le (List.takeWhile_prefix _) long
  · exact fun all => le_of_eq (congrArg List.length all.symm)

end Numerals

namespace ModbusBridge

open Numerals

variable {base n : Nat} {negative : Bool} {text digits : Bytes} {byte : UInt8}

/-! ## Digits -/

theorem isAlnum_of_digit (digit : (digitValue base byte).isSome = true) :
    isAlnum byte = true := by
  unfold digitValue at digit
  dsimp only at digit
  rw [isAlnum]
  split_ifs at digit <;> simp_all

theorem digitValue_ten_isSome_iff :
    (digitValue 10 byte).isSome = true ↔ 48 ≤ byte ∧ byte ≤ 57 := by
  rw [digitValue]
  simp only [UInt8.le_iff_toNat_le, UInt8.toNat_ofNat]
  split_ifs <;> simp <;> omega

theorem not_isSpace_of_isAlnum (alnum : isAlnum byte = true) : isSpace byte = false := by
  grind [isAlnum, isSpace]

theorem not_sign_of_isAlnum (alnum : isAlnum byte = true) : byte ≠ 43 ∧ byte ≠ 45 := by
  constructor <;> rintro rfl <;> contradiction

/-- The digits that are printed denote the number. -/
theorem denotes_toDigits (more : 1 < base) (few : base ≤ 16) (n : Nat) :
    Denotes (digitValue base) base
      ((Nat.toDigits base n).map fun char => UInt8.ofNat char.toNat) n := by
  have digit : ∀ n < base, digitValue base (UInt8.ofNat (Nat.digitChar n).toNat) = some n := by
    have each : ∀ base ≤ 16, ∀ n < base,
        digitValue base (UInt8.ofNat (Nat.digitChar n).toNat) = some n := by decide +kernel
    exact each base few
  induction n using Nat.strongRecOn with
  | ind n induction =>
      rcases Nat.lt_or_ge n base with small | large
      · rw [Nat.toDigits_of_lt_base small]
        exact .singleton (digit n small)
      · have front := induction (n / base) (Nat.div_lt_self (by omega) more)
        have last := digit (n % base) (Nat.mod_lt n (by omega))
        have whole := front.concat last
        rw [Nat.mod_add_div] at whole
        rw [Nat.toDigits_of_base_le more large, List.map_append]
        exact whole

theorem denotes_decimal (n : Nat) : Denotes (digitValue 10) 10 (decimal n) n :=
  denotes_toDigits (by decide) (by decide) n

theorem denotes_hexadecimal (n : Nat) : Denotes (digitValue 16) 16 (hexadecimal n) n :=
  denotes_toDigits (by decide) (by decide) n

/-! ## What stands before the digits -/

/-- A sign, or none. -/
inductive IsSign : Bytes → Bool → Prop
  | none : IsSign [] false
  | plus : IsSign [43] false
  | minus : IsSign [45] true

/-- The mark of a base, or none. Only base 16 has one. -/
inductive IsMark : Nat → Bytes → Prop
  | none {base : Nat} : IsMark base []
  | lower : IsMark 16 [48, 120]
  | upper : IsMark 16 [48, 88]

/-- What `strtoul` skips before the digits: spaces, a sign, and the mark of the base. -/
def Lead (base : Nat) (lead : Bytes) (negative : Bool) : Prop :=
  ∃ spaces sign mark, lead = spaces ++ (sign ++ mark) ∧ (∀ byte ∈ spaces, isSpace byte = true) ∧
    IsSign sign negative ∧ IsMark base mark

/-- The numeral without a sign, and whether it has a minus sign. -/
def unsign (signed : Bytes) : Bool × Bytes :=
  let negative := signed.head? = some 45
  (negative, if negative ∨ signed.head? = some 43 then signed.drop 1 else signed)

/-- The numeral without the mark of its base. -/
def unmark (base : Nat) (unsigned : Bytes) : Bytes :=
  if base = 16 ∧ unsigned.head? = some 48 ∧
      ((unsigned.drop 1).head? = some 120 ∨ (unsigned.drop 1).head? = some 88) ∧
      ((unsigned.drop 2).head?.bind (digitValue 16)).isSome then
    unsigned.drop 2
  else unsigned

theorem scanNumeral_eq (base : Nat) (text : Bytes) :
    scanNumeral base text =
      let signed := text.dropWhile isSpace
      let numeral := unmark base (unsign signed).2
      let digits := numeral.takeWhile fun byte => (digitValue base byte).isSome
      if digits = [] then none
      else some ((unsign signed).1, value (digitValue base) base digits,
        numeral.drop digits.length) := by
  rw [scanNumeral]
  simp only [foldl_eq_value]
  rfl

theorem unsign_append {sign : Bytes} (isSign : IsSign sign negative)
    (plain : ∀ byte ∈ text.head?, isAlnum byte = true) :
    unsign (sign ++ text) = (negative, text) := by
  cases isSign with
  | none =>
      have unsigned : text.head? ≠ some 45 ∧ text.head? ≠ some 43 :=
        ⟨fun minus => (not_sign_of_isAlnum (plain 45 minus)).2 rfl,
          fun plus => (not_sign_of_isAlnum (plain 43 plus)).1 rfl⟩
      simp [unsign, unsigned]
  | plus => simp [unsign]
  | minus => simp [unsign]

theorem dropWhile_sign {sign : Bytes} (isSign : IsSign sign negative)
    (plain : ∀ byte ∈ text.head?, isAlnum byte = true) :
    (sign ++ text).dropWhile isSpace = sign ++ text := by
  cases isSign with
  | none =>
      cases text with
      | nil => rfl
      | cons first rest =>
          have noSpace := not_isSpace_of_isAlnum (plain first rfl)
          rw [List.nil_append, List.dropWhile_cons_of_neg (by simp [noSpace])]
  | plus => rfl
  | minus => rfl

theorem unsign_split (signed : Bytes) :
    ∃ sign, signed = sign ++ (unsign signed).2 ∧ IsSign sign (unsign signed).1 := by
  cases signed with
  | nil => exact ⟨[], rfl, .none⟩
  | cons first rest =>
      by_cases minus : first = 45
      · subst minus
        exact ⟨[45], rfl, .minus⟩
      · by_cases plus : first = 43
        · subst plus
          exact ⟨[43], rfl, .plus⟩
        · have unsigned : unsign (first :: rest) = (false, first :: rest) := by
            simp [unsign, minus, plus]
          exact ⟨[], by rw [unsigned]; rfl, by rw [unsigned]; exact .none⟩

theorem unmark_append {mark : Bytes} (isMark : IsMark base mark) (nonempty : digits ≠ [])
    (all : ∀ byte ∈ digits, (digitValue base byte).isSome = true) :
    unmark base (mark ++ digits) = digits := by
  obtain ⟨first, rest, rfl⟩ := List.exists_cons_of_ne_nil nonempty
  cases isMark with
  | none =>
      rw [List.nil_append, unmark, if_neg]
      rintro ⟨rfl, -, second, -⟩
      have digit : ∀ byte, rest.head? = some byte → (digitValue 16 byte).isSome = true :=
        fun byte head => all byte (List.mem_cons_of_mem first (List.mem_of_mem_head? head))
      rcases second with letter | letter
      · exact absurd (digit 120 letter) (by decide)
      · exact absurd (digit 88 letter) (by decide)
  | lower => simp [unmark, all first List.mem_cons_self]
  | upper => simp [unmark, all first List.mem_cons_self]

theorem unmark_split (base : Nat) (unsigned : Bytes) :
    ∃ mark, unsigned = mark ++ unmark base unsigned ∧ IsMark base mark := by
  rw [unmark]
  split
  next marked =>
      obtain ⟨rfl, zero, letter, -⟩ := marked
      obtain ⟨rest, rfl⟩ := List.head?_eq_some_iff.mp zero
      rcases letter with letter | letter
      · obtain ⟨digits, rfl⟩ := List.head?_eq_some_iff.mp letter
        exact ⟨[48, 120], rfl, .lower⟩
      · obtain ⟨digits, rfl⟩ := List.head?_eq_some_iff.mp letter
        exact ⟨[48, 88], rfl, .upper⟩
  next => exact ⟨[], rfl, .none⟩

theorem lead_nil_iff : Lead base [] negative ↔ negative = false := by
  constructor
  · rintro ⟨spaces, sign, mark, empty, -, isSign, -⟩
    obtain ⟨-, rfl, -⟩ : spaces = [] ∧ sign = [] ∧ mark = [] := by simpa using empty.symm
    cases isSign
    rfl
  · rintro rfl
    exact ⟨[], [], [], rfl, by simp, .none, .none⟩

/-- Nothing in base 10 is skipped before a digit. -/
theorem lead_eq_nil {lead : Bytes} (isLead : Lead 10 lead negative)
    (first : ∃ first ∈ (lead ++ digits).head?, isAlnum first = true) : lead = [] := by
  have plain : ∀ byte ∈ lead, isAlnum byte = false := by
    obtain ⟨spaces, sign, mark, rfl, allSpaces, isSign, isMark⟩ := isLead
    cases isMark
    intro byte member
    by_contra alnum
    rw [Bool.not_eq_false] at alnum
    rw [List.append_nil] at member
    rcases List.mem_append.mp member with space | sign
    · have noSpace := not_isSpace_of_isAlnum alnum
      rw [allSpaces byte space] at noSpace
      contradiction
    · cases isSign with
      | none => contradiction
      | plus => exact (not_sign_of_isAlnum alnum).1 (List.mem_singleton.mp sign)
      | minus => exact (not_sign_of_isAlnum alnum).2 (List.mem_singleton.mp sign)
  by_contra nonempty
  obtain ⟨byte, rest, rfl⟩ := List.exists_cons_of_ne_nil nonempty
  obtain ⟨first, head, alnum⟩ := first
  obtain rfl : byte = first := Option.some.inj head
  rw [plain byte List.mem_cons_self] at alnum
  contradiction

/-- What is skipped is not made of digits. -/
theorem exists_no_digit {lead : Bytes} (isLead : Lead base lead negative) (nonempty : lead ≠ []) :
    ∃ byte ∈ lead, (digitValue base byte).isSome = false := by
  have plain : ∀ byte, isAlnum byte = false → (digitValue base byte).isSome = false := by
    intro byte other
    by_contra digit
    rw [Bool.not_eq_false] at digit
    rw [isAlnum_of_digit digit] at other
    contradiction
  obtain ⟨spaces, sign, mark, rfl, allSpaces, isSign, isMark⟩ := isLead
  cases spaces with
  | cons space spaces =>
      refine ⟨space, by simp, plain space ?_⟩
      by_contra alnum
      have noSpace := not_isSpace_of_isAlnum (Bool.not_eq_false _ |>.mp alnum)
      rw [allSpaces space List.mem_cons_self] at noSpace
      contradiction
  | nil =>
      cases isSign with
      | plus => exact ⟨43, by simp, plain 43 rfl⟩
      | minus => exact ⟨45, by simp, plain 45 rfl⟩
      | none =>
          cases isMark with
          | none => exact absurd rfl nonempty
          | lower => exact ⟨120, by simp, by decide⟩
          | upper => exact ⟨88, by simp, by decide⟩

/-- What `strtoul` reads to the end of the text: digits, after what it skips. -/
theorem scanNumeral_eq_some_iff :
    scanNumeral base text = some (negative, n, []) ↔
      ∃ lead digits, text = lead ++ digits ∧ Lead base lead negative ∧
        Denotes (digitValue base) base digits n := by
  rw [scanNumeral_eq]
  constructor
  · intro read
    dsimp only at read
    split at read
    next => contradiction
    next nonempty =>
        obtain ⟨sign, signed, isSign⟩ := unsign_split (text.dropWhile isSpace)
        obtain ⟨mark, marked, isMark⟩ := unmark_split base (unsign (text.dropWhile isSpace)).2
        rw [Option.some.injEq, Prod.mk.injEq, Prod.mk.injEq] at read
        obtain ⟨minus, number, whole⟩ := read
        have all := (drop_takeWhile_eq_nil_iff _ _).mp whole
        rw [List.takeWhile_eq_self_iff.mpr all] at nonempty number
        refine ⟨text.takeWhile isSpace ++ (sign ++ mark), _, ?_,
          ⟨_, sign, mark, rfl, fun byte => List.mem_takeWhile_imp, minus ▸ isSign, isMark⟩,
          ⟨nonempty, all, number⟩⟩
        rw [List.append_assoc, List.append_assoc, ← marked, ← signed,
          List.takeWhile_append_dropWhile]
  · rintro ⟨lead, digits, rfl, ⟨spaces, sign, mark, rfl, allSpaces, isSign, isMark⟩,
      nonempty, all, rfl⟩
    have plain : ∀ byte ∈ (mark ++ digits).head?, isAlnum byte = true := by
      intro byte head
      cases isMark with
      | none => exact isAlnum_of_digit (all byte (List.mem_of_mem_head? head))
      | lower =>
          obtain rfl : 48 = byte := Option.some.inj head
          rfl
      | upper =>
          obtain rfl : 48 = byte := Option.some.inj head
          rfl
    have signed : (spaces ++ (sign ++ (mark ++ digits))).dropWhile isSpace =
        sign ++ (mark ++ digits) := by
      rw [List.dropWhile_append_of_pos allSpaces, dropWhile_sign isSign plain]
    rw [List.append_assoc, List.append_assoc, signed]
    dsimp only
    rw [unsign_append isSign plain]
    dsimp only
    rw [unmark_append isMark nonempty all, List.takeWhile_eq_self_iff.mpr all, if_neg nonempty,
      List.drop_length]

end ModbusBridge
