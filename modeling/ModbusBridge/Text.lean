import Mathlib.Algebra.Group.Nat.Defs
import Mathlib.Data.List.TakeWhile

/-!
# Byte strings

Arduino `String`s and C strings are byte strings. A `CString` carries the absence of a terminator
among its bytes, so that `strlen` is its length.
-/

namespace ModbusBridge

/-- The bytes of a `String`. -/
abbrev Bytes := List UInt8

/-- The bytes of an ASCII literal. -/
def ascii (text : String) : Bytes := text.toList.map fun char => UInt8.ofNat char.toNat

/-- `%lu`: the decimal digits of a number. -/
def decimal (n : Nat) : Bytes := (Nat.toDigits 10 n).map fun char => UInt8.ofNat char.toNat

/-- `String(value, HEX)`: the hexadecimal digits of a number. -/
def hexadecimal (n : Nat) : Bytes := (Nat.toDigits 16 n).map fun char => UInt8.ofNat char.toNat

/-- `String::toLowerCase`. -/
def toLowerCase (text : Bytes) : Bytes :=
  text.map fun byte => if 65 ≤ byte ∧ byte ≤ 90 then byte + 32 else byte

/-- `String::toUpperCase`. -/
def toUpperCase (text : Bytes) : Bytes :=
  text.map fun byte => if 97 ≤ byte ∧ byte ≤ 122 then byte - 32 else byte

/-- `indexOf(part)` from a position on, if the part is found. -/
def indexFrom (text part : Bytes) (start : Nat) : Option Nat :=
  (List.range text.length).find? fun i => start ≤ i && part.isPrefixOf (text.drop i)

/-- `indexOf(part) >= 0`. -/
def includes (text part : Bytes) : Bool :=
  part.isPrefixOf text ||
    match text with
    | [] => false
    | _ :: rest => includes rest part

/-- `isspace`. -/
def isSpace (byte : UInt8) : Bool := byte == 32 || (9 ≤ byte && byte ≤ 13)

/-- `isalnum`. -/
def isAlnum (byte : UInt8) : Bool :=
  (48 ≤ byte && byte ≤ 57) || (65 ≤ byte && byte ≤ 90) || (97 ≤ byte && byte ≤ 122)

/-- The value of a digit, if it is one in this base. -/
def digitValue (base : Nat) (byte : UInt8) : Option Nat :=
  let value :=
    if 48 ≤ byte ∧ byte ≤ 57 then byte.toNat - 48
    else if 97 ≤ byte ∧ byte ≤ 122 then byte.toNat - 87
    else if 65 ≤ byte ∧ byte ≤ 90 then byte.toNat - 55
    else base
  if value < base then some value else none

/-- What `strtol` and `strtoul` read: whether there is a minus sign, the value of the digits and the
rest of the text, if there are digits. A prefix `0x` is skipped in base 16. -/
def scanNumeral (base : Nat) (text : Bytes) : Option (Bool × Nat × Bytes) :=
  let signed := text.dropWhile isSpace
  let negative := signed.head? = some 45
  let unsigned := if negative ∨ signed.head? = some 43 then signed.drop 1 else signed
  let isHexPrefix :=
    base = 16 ∧ unsigned.head? = some 48 ∧
      ((unsigned.drop 1).head? = some 120 ∨ (unsigned.drop 1).head? = some 88) ∧
      ((unsigned.drop 2).head?.bind (digitValue 16)).isSome
  let numeral := if isHexPrefix then unsigned.drop 2 else unsigned
  let digits := numeral.takeWhile fun byte => (digitValue base byte).isSome
  if digits = [] then none
  else
    let magnitude :=
      digits.foldl (fun value digit => value * base + (digitValue base digit).getD 0) 0
    some (negative, magnitude, numeral.drop digits.length)

/-- `String::toInt`: `atol` with 32 bits. -/
def toInt (text : Bytes) : Int :=
  match scanNumeral 10 (text.takeWhile (· != 0)) with
  | none => 0
  | some (negative, magnitude, _) =>
      if negative then max (-2147483648) (-(magnitude : Int)) else min 2147483647 magnitude

/-- The bytes that `%s` prints: those before the first terminator. -/
def untilNul (bytes : Bytes) : Bytes := bytes.takeWhile (· != 0)

/-- `strtol(text, NULL, 0)` with 32 bits: the text itself tells its base. -/
def strtol (text : Bytes) : Int :=
  let signed := (untilNul text).dropWhile isSpace
  let unsigned := if signed.head? = some 45 ∨ signed.head? = some 43 then signed.drop 1 else signed
  let base :=
    if unsigned.head? ≠ some 48 then 10
    else if (unsigned.drop 1).head? = some 120 ∨ (unsigned.drop 1).head? = some 88 then 16
    else 8
  match scanNumeral base (untilNul text) with
  | none => 0
  | some (negative, magnitude, _) =>
      if negative then max (-2147483648) (-(magnitude : Int)) else min 2147483647 magnitude

theorem untilNul_eq_self {bytes : Bytes} (noNul : ∀ byte ∈ bytes, byte ≠ 0) :
    untilNul bytes = bytes := by
  simpa [untilNul, List.takeWhile_eq_self_iff] using noNul

theorem decimal_ne_zero {n : Nat} {byte : UInt8} (member : byte ∈ decimal n) : byte ≠ 0 := by
  obtain ⟨char, digit, rfl⟩ := List.mem_map.mp member
  have isDigit := Nat.isDigit_of_mem_toDigits (by decide) (by decide) digit
  have bounds : 48 ≤ char.toNat ∧ char.toNat ≤ 57 := by
    simpa [Char.isDigit, UInt32.le_iff_toNat_le] using isDigit
  intro zero
  have value := congrArg UInt8.toNat zero
  simp at value
  omega

theorem decimal_length_le {n digits : Nat} (positive : 0 < digits) (bound : n < 10 ^ digits) :
    (decimal n).length ≤ digits := by
  simpa [decimal] using (Nat.length_toDigits_le_iff (by decide) positive).mpr bound

/-- A terminated string, given by the bytes before its terminator. -/
structure CString where
  /-- The bytes before the terminator. -/
  bytes : Bytes
  noNul : ∀ byte ∈ bytes, byte ≠ 0

namespace CString

/-- `strlen`. -/
def strlen (text : CString) : Nat := text.bytes.length

/-- The string of a literal without terminators. -/
def literal (text : String) (noNul : (ascii text).elem 0 = false) : CString where
  bytes := ascii text
  noNul byte member := by
    rintro rfl
    simp [member] at noNul

/-- `%lu` as a string. -/
def ofDecimal (n : Nat) : CString := ⟨decimal n, fun _ => decimal_ne_zero⟩

instance : Append CString where
  append left right :=
    { bytes := left.bytes ++ right.bytes
      noNul := fun byte member =>
        (List.mem_append.mp member).elim (left.noNul byte) (right.noNul byte) }

/-- `snprintf` into a buffer of `size` bytes. -/
def snprintf (size : Nat) (text : CString) : CString :=
  { bytes := text.bytes.take (size - 1)
    noNul := fun byte member => text.noNul byte (List.mem_of_mem_take member) }

theorem snprintf_strlen_lt {size : Nat} (text : CString) (positive : 0 < size) :
    (text.snprintf size).strlen < size := by
  simp [snprintf, strlen]
  omega

end CString

end ModbusBridge
