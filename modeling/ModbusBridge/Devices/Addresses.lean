import ModbusBridge.Devices.GenericModbusDevice
import ModbusBridge.Numerals

/-!
# Register addresses

The strings that the documentation allows for an address, and the strings that the parser accepts.
Behind `0x` the parser leaves the text to `strtoul`, which allows spaces, a sign and a second `0x`.
-/

namespace ModbusBridge

open Numerals

variable {s digits lead : Bytes} {letter : UInt8} {negative : Bool} {base n : Nat} {out : UInt32}

/-- The letter of a hexadecimal prefix. -/
def IsX (letter : UInt8) : Prop := letter = 120 ∨ letter = 88

/-- An address and its number: decimal digits without a leading zero, or `0x` and hexadecimal
digits. -/
inductive Address : Bytes → Nat → Prop
  | decimal {digits : Bytes} {n : Nat} (numeral : Denotes (digitValue 10) 10 digits n)
      (noZero : digits.head? = some 48 → digits = [48]) : Address digits n
  | hexadecimal {letter : UInt8} {digits : Bytes} {n : Nat} (isX : IsX letter)
      (numeral : Denotes (digitValue 16) 16 digits n) : Address (48 :: letter :: digits) n

/-- More than `0x` before the hexadecimal digits. -/
inductive Loose : Bytes → Bool → Nat → Prop
  | hexadecimal {letter : UInt8} {lead digits : Bytes} {negative : Bool} {n : Nat}
      (isX : IsX letter) (isLead : Lead 16 lead negative) (nonempty : lead ≠ [])
      (numeral : Denotes (digitValue 16) 16 digits n) :
      Loose (48 :: letter :: (lead ++ digits)) negative n

/-- What `strtoul` makes of a sign. -/
def wrap (negative : Bool) (n : Nat) : UInt32 :=
  if negative then 0 - UInt32.ofNat n else UInt32.ofNat n

/-! ## The parser -/

theorem parseDigits_eq_some_iff :
    parseDigits base digits = some out ↔
      ∃ negative n, scanNumeral base digits = some (negative, n, []) ∧ n ≤ 4294967295 ∧
        out = wrap negative n := by
  rw [parseDigits]
  cases scanNumeral base digits with
  | none => simp
  | some read =>
      obtain ⟨negative, magnitude, rest⟩ := read
      dsimp only
      by_cases whole : rest = []
      · subst whole
        by_cases fits : magnitude ≤ 4294967295
        · simp [Nat.not_lt_of_le fits, fits, wrap, eq_comm]
        · simp [Nat.lt_of_not_le fits, fits]
      · simp [whole]

theorem hasHexPrefix_of_isX (isX : IsX letter) (digits : Bytes) :
    hasHexPrefix (48 :: letter :: digits) = true := by
  simpa [hasHexPrefix, IsX] using isX

theorem parseUnsigned32_hexadecimal (isX : IsX letter) (digits : Bytes) :
    parseUnsigned32 (48 :: letter :: digits) = parseDigits 16 digits := by
  rw [parseUnsigned32, if_neg (List.cons_ne_nil _ _), if_pos (hasHexPrefix_of_isX isX digits)]
  cases digits with
  | nil => rfl
  | cons => rfl

theorem parseUnsigned32_decimal (plain : hasHexPrefix s = false) :
    parseUnsigned32 s = some out ↔
      (∃ digit ∈ s.head?, 48 ≤ digit ∧ digit ≤ 57) ∧ (s.head? = some 48 → s = [48]) ∧
        parseDigits 10 s = some out := by
  rw [parseUnsigned32, plain]
  cases s with
  | nil => simp
  | cons first rest =>
      simp only [reduceCtorEq, if_false, Bool.false_eq_true, List.headD_cons, List.head?_cons,
        Option.mem_def, Option.some.injEq, exists_eq_left', List.drop_one, List.tail_cons,
        List.cons.injEq]
      split_ifs with range zero
      · refine iff_of_false (by simp) fun numeral => ?_
        rcases range with below | above
        · exact UInt8.not_lt.mpr numeral.1.1 below
        · exact UInt8.not_lt.mpr numeral.1.2 above
      · simp [zero]
      · simp_all

theorem isX_of_hasHexPrefix (prefixed : hasHexPrefix s = true) :
    ∃ letter digits, IsX letter ∧ s = 48 :: letter :: digits := by
  rw [hasHexPrefix, decide_eq_true_eq] at prefixed
  obtain ⟨zero, letter⟩ := prefixed
  obtain ⟨rest, rfl⟩ := List.head?_eq_some_iff.mp zero
  rcases letter with letter | letter
  · obtain ⟨digits, rfl⟩ := List.head?_eq_some_iff.mp letter
    exact ⟨120, digits, .inl rfl, rfl⟩
  · obtain ⟨digits, rfl⟩ := List.head?_eq_some_iff.mp letter
    exact ⟨88, digits, .inr rfl, rfl⟩

/-- A prefix is no decimal numeral. -/
theorem not_denotes_of_isX (isX : IsX letter) :
    ¬ Denotes (digitValue 10) 10 (48 :: letter :: digits) n := by
  rintro ⟨-, all, -⟩
  have digit := all letter (by simp)
  rcases isX with rfl | rfl <;> exact absurd digit (by decide)

theorem parseUnsigned32_decimal_iff (plain : hasHexPrefix s = false) :
    parseUnsigned32 s = some out ↔
      ∃ n, Denotes (digitValue 10) 10 s n ∧ (s.head? = some 48 → s = [48]) ∧ n ≤ 4294967295 ∧
        out = UInt32.ofNat n := by
  rw [parseUnsigned32_decimal plain, parseDigits_eq_some_iff]
  constructor
  · rintro ⟨⟨digit, head, range⟩, noZero, negative, n, read, fits, rfl⟩
    obtain ⟨lead, digits, rfl, isLead, numeral⟩ := scanNumeral_eq_some_iff.mp read
    have alnum : isAlnum digit = true := by simp [isAlnum, range]
    obtain rfl := lead_eq_nil isLead ⟨digit, head, alnum⟩
    obtain rfl := lead_nil_iff.mp isLead
    exact ⟨n, numeral, noZero, fits, rfl⟩
  · rintro ⟨n, numeral, noZero, fits, rfl⟩
    obtain ⟨first, rest, rfl⟩ := List.exists_cons_of_ne_nil numeral.nonempty
    have digit := digitValue_ten_isSome_iff.mp (numeral.digits first List.mem_cons_self)
    exact ⟨⟨first, rfl, digit⟩, noZero, false, n,
      scanNumeral_eq_some_iff.mpr ⟨[], _, rfl, lead_nil_iff.mpr rfl, numeral⟩, fits, rfl⟩

/-- The parser accepts the addresses and the loose numerals that fit, and nothing else. -/
theorem parseUnsigned32_eq_some_iff :
    parseUnsigned32 s = some out ↔
      (∃ n, Address s n ∧ n ≤ 4294967295 ∧ out = UInt32.ofNat n) ∨
        ∃ negative n, Loose s negative n ∧ n ≤ 4294967295 ∧ out = wrap negative n := by
  cases prefixed : hasHexPrefix s with
  | false =>
      rw [parseUnsigned32_decimal_iff prefixed]
      constructor
      · rintro ⟨n, numeral, noZero, fits, rfl⟩
        exact .inl ⟨n, .decimal numeral noZero, fits, rfl⟩
      · rintro (⟨n, address, fits, rfl⟩ | ⟨negative, n, loose, -⟩)
        · cases address with
          | decimal numeral noZero => exact ⟨n, numeral, noZero, fits, rfl⟩
          | hexadecimal isX =>
              rw [hasHexPrefix_of_isX isX] at prefixed
              contradiction
        · obtain ⟨isX, -⟩ := loose
          rw [hasHexPrefix_of_isX isX] at prefixed
          contradiction
  | true =>
      obtain ⟨letter, text, isX, rfl⟩ := isX_of_hasHexPrefix prefixed
      rw [parseUnsigned32_hexadecimal isX, parseDigits_eq_some_iff]
      constructor
      · rintro ⟨negative, n, read, fits, rfl⟩
        obtain ⟨lead, digits, rfl, isLead, numeral⟩ := scanNumeral_eq_some_iff.mp read
        by_cases nonempty : lead = []
        · subst nonempty
          obtain rfl := lead_nil_iff.mp isLead
          exact .inl ⟨n, .hexadecimal isX numeral, fits, rfl⟩
        · exact .inr ⟨negative, n, .hexadecimal isX isLead nonempty numeral, fits, rfl⟩
      · rintro (⟨n, address, fits, rfl⟩ | ⟨negative, n, loose, fits, rfl⟩)
        · cases address with
          | decimal numeral => exact absurd numeral (not_denotes_of_isX isX)
          | hexadecimal _ numeral =>
              exact ⟨false, n, scanNumeral_eq_some_iff.mpr
                ⟨[], text, rfl, lead_nil_iff.mpr rfl, numeral⟩, fits, rfl⟩
        · obtain ⟨-, isLead, -, numeral⟩ := loose
          exact ⟨negative, n, scanNumeral_eq_some_iff.mpr ⟨_, _, rfl, isLead, numeral⟩, fits, rfl⟩

theorem not_loose_of_address {m : Nat} (address : Address s n) : ¬ Loose s negative m := by
  rintro ⟨isX, isLead, nonempty, -⟩
  cases address with
  | decimal numeral => exact not_denotes_of_isX isX numeral
  | hexadecimal _ numeral =>
      obtain ⟨byte, member, other⟩ := exists_no_digit isLead nonempty
      rw [numeral.digits byte (List.mem_append_left _ member)] at other
      contradiction

/-! ## Two's complement -/

theorem toNat_ofNat (fits : n ≤ 4294967295) : (UInt32.ofNat n).toNat = n :=
  UInt32.toNat_ofNat_of_lt' (Nat.lt_succ_of_le fits)

theorem toInt_neg {m : UInt32} (fits : m.toNat ≤ 2147483648) :
    (0 - m).toBitVec.toInt = -(m.toNat : Int) := by
  have bound := m.toNat_lt
  rw [UInt32.toBitVec_sub, BitVec.toInt_eq_toNat_cond]
  simp only [UInt32.toBitVec_ofNat, BitVec.zero_sub, BitVec.toNat_neg, Nat.reducePow,
    UInt32.toNat_toBitVec, Int.natCast_emod, Nat.cast_ofNat]
  split <;> omega

theorem eq_of_toInt {m : UInt32} (same : out.toBitVec.toInt = m.toBitVec.toInt) : out = m :=
  UInt32.eq_of_toBitVec_eq (BitVec.eq_of_toInt_eq same)

theorem wrap_le_iff (fits : n ≤ 4294967295) :
    wrap negative n ≤ 0x80000000 ↔
      if negative then n = 0 ∨ 2147483648 ≤ n else n ≤ 2147483648 := by
  have value := toNat_ofNat fits
  have limit : (0x80000000 : UInt32).toNat = 2147483648 := rfl
  cases negative with
  | true =>
      have negated : (wrap true n).toNat = (4294967296 - n) % 4294967296 := by
        rw [wrap, if_pos rfl, UInt32.toNat_sub, value]
        simp
      rw [UInt32.le_iff_toNat_le, negated, if_pos rfl, limit]
      omega
  | false =>
      rw [UInt32.le_iff_toNat_le]
      simp [wrap, value]

theorem parseSigned32AsBits_eq_some_iff :
    parseSigned32AsBits s = some out ↔
      ∃ rest magnitude, s = 45 :: rest ∧ parseUnsigned32 rest = some magnitude ∧
        magnitude ≤ 0x80000000 ∧ out = 0 - magnitude := by
  rw [parseSigned32AsBits]
  cases s with
  | nil => simp
  | cons first rest =>
      by_cases minus : first = 45
      · subst minus
        cases rest with
        | nil => simp [parseUnsigned32]
        | cons second rest =>
            cases parsed : parseUnsigned32 (second :: rest) with
            | none => simp [parsed]
            | some magnitude => simp [parsed, ← UInt32.not_le, eq_comm]
      · simp [minus]

/-! ## The grammar -/

/-- The unsigned parser accepts the addresses of 32 bits, and reads their numbers. -/
def UnsignedExact (s : Bytes) : Prop :=
  ∀ out, parseUnsigned32 s = some out ↔ ∃ n, Address s n ∧ n ≤ 4294967295 ∧ out.toNat = n

/-- The signed parser accepts a minus sign and an address up to `2 ^ 31`, and reads the two's
complement of its number. -/
def SignedExact (s : Bytes) : Prop :=
  ∀ out, parseSigned32AsBits s = some out ↔
    ∃ rest n, s = 45 :: rest ∧ Address rest n ∧ n ≤ 2147483648 ∧ out.toBitVec.toInt = -n

theorem unsignedExact_iff :
    UnsignedExact s ↔ ¬ ∃ negative n, Loose s negative n ∧ n ≤ 4294967295 := by
  constructor
  · rintro parses ⟨negative, n, loose, fits⟩
    obtain ⟨m, address, -⟩ := (parses (wrap negative n)).mp
      (parseUnsigned32_eq_some_iff.mpr (.inr ⟨negative, n, loose, fits, rfl⟩))
    exact not_loose_of_address address loose
  · intro strict out
    rw [parseUnsigned32_eq_some_iff]
    constructor
    · rintro (⟨n, address, fits, rfl⟩ | ⟨negative, n, loose, fits, -⟩)
      · exact ⟨n, address, fits, toNat_ofNat fits⟩
      · exact absurd ⟨negative, n, loose, fits⟩ strict
    · rintro ⟨n, address, fits, rfl⟩
      exact .inl ⟨_, address, fits, UInt32.ofNat_toNat.symm⟩

theorem signedExact_iff :
    SignedExact s ↔
      ¬ ∃ rest negative n, s = 45 :: rest ∧ Loose rest negative n ∧ n ≤ 4294967295 ∧
        if negative then n = 0 ∨ 2147483648 ≤ n else n ≤ 2147483648 := by
  constructor
  · rintro parses ⟨rest, negative, n, rfl, loose, fits, small⟩
    obtain ⟨other, m, same, address, -⟩ := (parses (0 - wrap negative n)).mp
      (parseSigned32AsBits_eq_some_iff.mpr ⟨rest, wrap negative n, rfl,
        parseUnsigned32_eq_some_iff.mpr (.inr ⟨negative, n, loose, fits, rfl⟩),
        (wrap_le_iff fits).mpr small, rfl⟩)
    obtain rfl := (List.cons.inj same).2
    exact not_loose_of_address address loose
  · intro strict out
    rw [parseSigned32AsBits_eq_some_iff]
    constructor
    · rintro ⟨rest, magnitude, rfl, parsed, small, rfl⟩
      rcases parseUnsigned32_eq_some_iff.mp parsed with
        ⟨n, address, fits, rfl⟩ | ⟨negative, n, loose, fits, rfl⟩
      · have value : (UInt32.ofNat n).toNat = n :=
          UInt32.toNat_ofNat_of_lt' (show n < 4294967296 by omega)
        have small : n ≤ 2147483648 := by simpa [UInt32.le_iff_toNat_le, value] using small
        refine ⟨rest, n, rfl, address, small, ?_⟩
        rw [toInt_neg (value.symm ▸ small), value]
      · exact absurd ⟨rest, negative, n, rfl, loose, fits, (wrap_le_iff fits).mp small⟩ strict
    · rintro ⟨rest, n, rfl, address, small, number⟩
      have value := @toNat_ofNat n (by omega)
      refine ⟨rest, UInt32.ofNat n, rfl,
        parseUnsigned32_eq_some_iff.mpr (.inl ⟨n, address, by omega, rfl⟩), ?_, eq_of_toInt ?_⟩
      · simpa [UInt32.le_iff_toNat_le, value] using small
      · rw [toInt_neg (value.symm ▸ small), value, number]

/-- The parsers are exact, if and only if there is no more than `0x` before hexadecimal digits that
they accept. -/
theorem address_grammar_exact_iff (s : Bytes) :
    (UnsignedExact s ↔ ¬ ∃ negative n, Loose s negative n ∧ n ≤ 4294967295) ∧
      (SignedExact s ↔
        ¬ ∃ rest negative n, s = 45 :: rest ∧ Loose rest negative n ∧ n ≤ 4294967295 ∧
          if negative then n = 0 ∨ 2147483648 ≤ n else n ≤ 2147483648) :=
  ⟨unsignedExact_iff, signedExact_iff⟩

/-- Behind `0x` a sign, a space and another `0x` are accepted. -/
theorem address_grammar_loose :
    parseUnsigned32 (ascii "0x-1") = some 0xFFFFFFFF ∧ ¬ UnsignedExact (ascii "0x-1") ∧
      parseUnsigned32 (ascii "0x 0x10") = some 16 ∧ ¬ UnsignedExact (ascii "0x 0x10") ∧
      parseSigned32AsBits (ascii "-0x+1") = some 0xFFFFFFFF ∧ ¬ SignedExact (ascii "-0x+1") := by
  have one : Denotes (digitValue 16) 16 [49] 1 := ⟨by simp, by decide +kernel, by decide +kernel⟩
  have sixteen : Denotes (digitValue 16) 16 [49, 48] 16 :=
    ⟨by simp, by decide +kernel, by decide +kernel⟩
  refine ⟨by decide +kernel, fun parses => ?_, by decide +kernel, fun parses => ?_,
    by decide +kernel, fun parses => ?_⟩
  · exact unsignedExact_iff.mp parses ⟨true, 1,
      @Loose.hexadecimal 120 [45] _ _ _ (.inl rfl) ⟨[], [45], [], rfl, by simp, .minus, .none⟩
        (by simp) one, by decide⟩
  · exact unsignedExact_iff.mp parses ⟨false, 16,
      @Loose.hexadecimal 120 [32, 48, 120] _ _ _ (.inl rfl)
        ⟨[32], [], [48, 120], rfl, by decide +kernel, .none, .lower⟩ (by simp) sixteen, by decide⟩
  · exact signedExact_iff.mp parses ⟨_, false, 1, rfl,
      @Loose.hexadecimal 120 [43] _ _ _ (.inl rfl) ⟨[], [43], [], rfl, by simp, .plus, .none⟩
        (by simp) one, by decide, by decide⟩

end ModbusBridge
