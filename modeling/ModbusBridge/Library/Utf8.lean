import Mathlib.Data.List.TakeDrop

/-!
# UTF-8 texts that are cut and substituted

Where a byte string is the encoding of a text, a prefix of it is one if and only if the cut comes
before the first byte of a character. A substitution of ASCII bytes changes nothing about this.
-/

namespace Utf8

/-- The bytes are the UTF-8 encoding of a text. -/
def Valid (bytes : List UInt8) : Prop := bytes.toByteArray.IsValidUTF8

variable {bytes front back : List UInt8} {byte : UInt8}

theorem valid_iff_exists :
    Valid bytes ↔ ∃ text : List Char, text.flatMap String.utf8EncodeChar = bytes := by
  constructor
  · rintro ⟨text, encoded⟩
    exact ⟨text, (List.toByteArray_inj.mp encoded).symm⟩
  · rintro ⟨text, rfl⟩
    exact ⟨text, rfl⟩

theorem valid_nil : Valid [] := valid_iff_exists.mpr ⟨[], rfl⟩

theorem valid_char_append_iff (char : Char) :
    Valid (String.utf8EncodeChar char ++ bytes) ↔ Valid bytes := by
  have cancel := @ByteArray.isValidUTF8_utf8Encode_singleton_append_iff bytes.toByteArray char
  rwa [List.utf8Encode_singleton, ← List.toByteArray_append] at cancel

/-- Behind a text, the rest is judged by itself. -/
theorem valid_append_iff (valid : Valid front) : Valid (front ++ back) ↔ Valid back := by
  obtain ⟨text, rfl⟩ := valid_iff_exists.mp valid
  clear valid
  induction text with
  | nil => rfl
  | cons char text induction =>
      rw [List.flatMap_cons, List.append_assoc, valid_char_append_iff]
      exact induction

theorem Valid.append (early : Valid front) (late : Valid back) : Valid (front ++ back) :=
  (valid_append_iff early).mpr late

/-- A text starts with the first byte of a character. -/
theorem Valid.first (valid : Valid (byte :: bytes)) : byte.IsUTF8FirstByte := by
  have nonempty : 0 < (byte :: bytes).toByteArray.size := by simp
  simpa using ByteArray.IsValidUTF8.isUTF8FirstByte_getElem_zero valid nonempty

/-- A prefix of a text is a text, if and only if the cut comes before the first byte of a
character. -/
theorem valid_take_iff (valid : Valid bytes) (n : Nat) :
    Valid (bytes.take n) ↔ ∀ byte ∈ bytes[n]?, byte.IsUTF8FirstByte := by
  constructor
  · intro cut byte found
    obtain ⟨inside, rfl⟩ := List.getElem?_eq_some_iff.mp found
    rw [← List.take_append_drop n bytes, valid_append_iff cut,
      List.drop_eq_getElem_cons inside] at valid
    exact valid.first
  · intro first
    obtain ⟨text, rfl⟩ := valid_iff_exists.mp valid
    clear valid
    induction text generalizing n with
    | nil => simpa using valid_nil
    | cons char text induction =>
        rw [List.flatMap_cons] at first ⊢
        rcases Nat.lt_or_ge n (String.utf8EncodeChar char).length with within | beyond
        · rw [List.getElem?_append_left within, List.getElem?_eq_getElem within] at first
          obtain rfl := UInt8.isUTF8FirstByte_getElem_utf8EncodeChar.mp (first _ rfl)
          simpa using valid_nil
        · rw [List.getElem?_append_right beyond] at first
          rw [List.take_append, List.take_of_length_le beyond, valid_char_append_iff]
          exact induction _ first

/-- In front of a text, the rest is judged by itself. -/
theorem valid_append_right_iff (valid : Valid back) : Valid (front ++ back) ↔ Valid front := by
  constructor
  · intro whole
    have cut := valid_take_iff whole front.length
    rw [List.take_left] at cut
    refine cut.mpr fun byte found => ?_
    cases back with
    | nil => simp at found
    | cons first rest =>
        obtain rfl : first = byte := by simpa using found
        exact valid.first
  · exact fun early => early.append valid

/-! ## ASCII bytes and their substitution -/

theorem valid_singleton (small : byte < 128) : Valid [byte] := by
  have bound : byte.toNat ≤ 127 := Nat.le_of_lt_succ (UInt8.lt_iff_toNat_lt.mp small)
  refine valid_iff_exists.mpr ⟨[Char.ofUInt8 byte], ?_⟩
  have value : (Char.ofUInt8 byte).val = byte.toUInt32 := rfl
  simp [String.utf8EncodeChar, value, bound]

theorem valid_of_ascii (small : ∀ byte ∈ bytes, byte < 128) : Valid bytes := by
  induction bytes with
  | nil => exact valid_nil
  | cons byte bytes induction =>
      rw [List.forall_mem_cons] at small
      exact (valid_singleton small.1).append (induction small.2)

theorem valid_literal (small : bytes.all (· < 128) = true) : Valid bytes :=
  valid_of_ascii (by simpa using small)

/-- The encoding of a character is an ASCII byte, or has none. -/
theorem encode_cases (char : Char) :
    (∃ byte < 128, String.utf8EncodeChar char = [byte]) ∨
      ∀ byte ∈ String.utf8EncodeChar char, 128 ≤ byte := by
  have high (n bound : Nat) (large : 128 ≤ bound) (small : n + bound < 256) :
      128 ≤ UInt8.ofNat (n + bound) := by
    rw [UInt8.le_iff_toNat_le, UInt8.toNat_ofNat', Nat.mod_eq_of_lt small]
    exact Nat.le_add_left_of_le large
  rw [String.utf8EncodeChar]
  split
  next ascii =>
      refine .inl ⟨_, ?_, rfl⟩
      rw [UInt8.lt_iff_toNat_lt, UInt8.toNat_ofNat', Nat.mod_eq_of_lt (by omega)]
      exact Nat.lt_succ_of_le ascii
  next wide =>
      refine .inr fun byte member => ?_
      split at member
      next =>
          simp only [List.mem_cons, List.not_mem_nil, or_false] at member
          rcases member with rfl | rfl <;> exact high _ _ (by omega) (by omega)
      next =>
          split at member <;>
            simp only [List.mem_cons, List.not_mem_nil, or_false] at member
          · rcases member with rfl | rfl | rfl <;> exact high _ _ (by omega) (by omega)
          · rcases member with rfl | rfl | rfl | rfl <;> exact high _ _ (by omega) (by omega)

variable {substitute : UInt8 → List UInt8}

/-- Bytes that are all kept. -/
theorem flatMap_high (keeps : ∀ byte, 128 ≤ byte → substitute byte = [byte])
    (high : ∀ byte ∈ bytes, 128 ≤ byte) : bytes.flatMap substitute = bytes := by
  induction bytes with
  | nil => rfl
  | cons byte bytes induction =>
      rw [List.forall_mem_cons] at high
      rw [List.flatMap_cons, keeps byte high.1, induction high.2]
      rfl

theorem valid_flatMap_encode (ascii : ∀ byte < 128, Valid (substitute byte))
    (keeps : ∀ byte, 128 ≤ byte → substitute byte = [byte]) (char : Char) :
    Valid ((String.utf8EncodeChar char).flatMap substitute) := by
  rcases encode_cases char with ⟨byte, small, single⟩ | high
  · rw [single, List.flatMap_singleton]
    exact ascii byte small
  · rw [flatMap_high keeps high]
    exact valid_iff_exists.mpr ⟨[char], List.flatMap_singleton _ _⟩

/-- When ASCII bytes of a prefix of a text are substituted by texts, the result is a text if and
only if the prefix is. -/
theorem valid_flatMap_take_iff (ascii : ∀ byte < 128, Valid (substitute byte))
    (keeps : ∀ byte, 128 ≤ byte → substitute byte = [byte]) (valid : Valid bytes) (n : Nat) :
    Valid ((bytes.take n).flatMap substitute) ↔ Valid (bytes.take n) := by
  obtain ⟨text, rfl⟩ := valid_iff_exists.mp valid
  clear valid
  induction text generalizing n with
  | nil => simp
  | cons char text induction =>
      rw [List.flatMap_cons]
      rcases Nat.lt_or_ge n (String.utf8EncodeChar char).length with within | beyond
      · rw [List.take_append_of_le_length (Nat.le_of_lt within)]
        rcases encode_cases char with ⟨byte, small, single⟩ | high
        · obtain rfl : n = 0 := by simpa [single] using within
          simp
        · rw [flatMap_high keeps fun byte member => high byte (List.mem_of_mem_take member)]
      · rw [List.take_append, List.take_of_length_le beyond, valid_char_append_iff,
          List.flatMap_append, valid_append_iff (valid_flatMap_encode ascii keeps char)]
        exact induction _

end Utf8
