import ModbusBridge.Devices.Addresses
import ModbusBridge.Devices.Phases

/-!
# Sentinels

A field may declare a `nan_value`, the number that its words hold when there is no reading. The
number is kept in 32 bits, and the comparison looks at as many of them as the type of the field has.
-/

namespace ModbusBridge

open Fallible

/-! ## Words and numbers -/

section Width

variable {width : Nat} {word : BitVec width} {n : Int}

/-- The word holds the number, as an unsigned number or in two's complement. -/
def Holds (word : BitVec width) (n : Int) : Prop := n = word.toNat ∨ n = word.toInt

/-- A number that some word of the width holds. -/
def Fits (width : Nat) (n : Int) : Prop := -2 ^ (width - 1) ≤ n ∧ n < 2 ^ width

theorem two_pow_eq (positive : 0 < width) : (2 : Int) ^ width = 2 * 2 ^ (width - 1) := by
  rw [← pow_succ', Nat.sub_add_cancel positive]

theorem fits_of_holds (positive : 0 < width) (holds : Holds word n) : Fits width n := by
  have double := two_pow_eq positive
  have half : (0 : Int) < 2 ^ (width - 1) := by positivity
  rcases holds with rfl | rfl
  · have bound : (word.toNat : Int) < 2 ^ width := by exact_mod_cast word.isLt
    exact ⟨by omega, bound⟩
  · have low := word.le_toInt
    have high := word.toInt_lt
    exact ⟨low, by omega⟩

theorem ofInt_eq_of_holds (holds : Holds word n) : BitVec.ofInt width n = word := by
  rcases holds with rfl | rfl
  · rw [BitVec.ofInt_natCast, BitVec.ofNat_toNat, BitVec.setWidth_eq]
  · exact BitVec.ofInt_toInt

theorem holds_ofInt (positive : 0 < width) (fits : Fits width n) :
    Holds (BitVec.ofInt width n) n := by
  obtain ⟨low, high⟩ := fits
  by_cases small : n < 2 ^ (width - 1)
  · exact .inr (BitVec.toInt_ofInt_eq_self positive low small).symm
  · have nonneg : 0 ≤ n := by
      have half : (0 : Int) < 2 ^ (width - 1) := by positivity
      omega
    obtain ⟨m, rfl⟩ := Int.eq_ofNat_of_zero_le nonneg
    refine .inl ?_
    rw [BitVec.ofInt_natCast, BitVec.toNat_ofNat, Nat.mod_eq_of_lt (by exact_mod_cast high)]

/-- Cutting a number down to the width finds the words that hold it, if and only if the number fits
or the word is another one. -/
theorem cut_exact_iff (positive : 0 < width) :
    (BitVec.ofInt width n = word ↔ Holds word n) ↔ Fits width n ∨ BitVec.ofInt width n ≠ word := by
  constructor
  · intro exact
    by_cases cut : BitVec.ofInt width n = word
    · exact .inl (fits_of_holds positive (exact.mp cut))
    · exact .inr cut
  · rintro (fits | other)
    · exact ⟨fun cut => cut ▸ holds_ofInt positive fits, ofInt_eq_of_holds⟩
    · exact ⟨fun cut => absurd cut other, fun holds => absurd (ofInt_eq_of_holds holds) other⟩

end Width

namespace GenericModbusDevice

/-! ## The comparison -/

/-- The number of bits of a field. -/
def fieldWidth (field : Field) : Nat := 16 * wordSize field.type

/-- What the words of a field hold. -/
def wireValue (field : Field) (words : Nat → Word) : BitVec (fieldWidth field) :=
  (rawValue field words).toBitVec.setWidth (fieldWidth field)

theorem fieldWidth_pos (field : Field) : 0 < fieldWidth field :=
  Nat.mul_pos (by decide) (wordSize_pos field.type)

theorem low_bits_eq_iff (a b : UInt32) :
    a &&& 0xFFFF = b &&& 0xFFFF ↔ a.toBitVec.setWidth 16 = b.toBitVec.setWidth 16 := by
  rw [← UInt32.toNat_inj, ← BitVec.toNat_inj, UInt32.toNat_and, UInt32.toNat_and]
  have low : ∀ m : Nat, m &&& (0xFFFF : UInt32).toNat = m % 2 ^ 16 :=
    fun m => Nat.and_two_pow_sub_one_eq_mod m 16
  rw [low, low, BitVec.toNat_setWidth, BitVec.toNat_setWidth]
  rfl

theorem isNan_iff {field : Field} {nanSentinel : UInt32}
    (declared : field.nanSentinel = some nanSentinel) (raw : UInt32) :
    isNan field raw = true ↔
      nanSentinel.toBitVec.setWidth (fieldWidth field) =
        raw.toBitVec.setWidth (fieldWidth field) := by
  rw [isNan, declared]
  dsimp only
  rw [beq_iff_eq, fieldWidth]
  rcases wordSize_eq field.type with size | size <;> rw [size]
  · rw [if_pos rfl, low_bits_eq_iff]
    exact eq_comm
  · have all : ∀ m : UInt32, m &&& 0xFFFFFFFF = m :=
      fun m => UInt32.eq_of_toBitVec_eq BitVec.and_allOnes
    rw [if_neg (by decide), all, all, eq_comm]
    simp [← UInt32.toBitVec_inj]

theorem fieldPoints_eq_nil_iff (single : SinglePrecision) (field : Field) (words : Nat → Word) :
    fieldPoints single field words = [] ↔ suppressed field words = true := by
  rw [fieldPoints]
  split_ifs with suppressed numeric
  · simp [suppressed]
  · simp [suppressed]
  · simp [suppressed, numeric]

/-! ## The declared number -/

/-- The number of an accepted string: an address, or a numeral that is read as loosely as `strtoul`
reads it. -/
inductive Numeral : Bytes → Int → Prop
  | address {s : Bytes} {n : Nat} (address : Address s n) : Numeral s n
  | loose {s : Bytes} {negative : Bool} {n : Nat} (loose : Loose s negative n) :
      Numeral s (if negative then -n else n)

/-- The integer that a `nan_value` declares, as a number or as a string. -/
inductive NanNumber : Json → Int → Prop
  | number (n : Int) : NanNumber (.integer n) n
  | unsigned {text : Bytes} {n : Int} (numeral : Numeral (untilNul text) n) :
      NanNumber (.string text) n
  | signed {text rest : Bytes} {n : Int} (minus : untilNul text = 45 :: rest)
      (numeral : Numeral rest n) : NanNumber (.string text) (-n)

theorem address_unique {s : Bytes} {n m : Nat} (first : Address s n) (second : Address s m) :
    n = m := by
  cases first with
  | decimal numeral =>
      cases second with
      | decimal other => exact numeral.number.symm.trans other.number
      | hexadecimal isX => exact absurd numeral (not_denotes_of_isX isX)
  | hexadecimal isX numeral =>
      cases second with
      | decimal other => exact absurd other (not_denotes_of_isX isX)
      | hexadecimal _ other => exact numeral.number.symm.trans other.number

theorem scanNumeral_of_loose {s : Bytes} {negative : Bool} {n : Nat} (loose : Loose s negative n) :
    scanNumeral 16 (s.drop 2) = some (negative, n, []) := by
  obtain ⟨-, isLead, -, numeral⟩ := loose
  exact scanNumeral_eq_some_iff.mpr ⟨_, _, rfl, isLead, numeral⟩

theorem loose_unique {s : Bytes} {negative minus : Bool} {n m : Nat} (first : Loose s negative n)
    (second : Loose s minus m) : negative = minus ∧ n = m := by
  simpa using (scanNumeral_of_loose first).symm.trans (scanNumeral_of_loose second)

theorem wrap_eq_ofInt (negative : Bool) (n : Nat) :
    (wrap negative n).toBitVec = BitVec.ofInt 32 (if negative then -n else n) := by
  have bits : (UInt32.ofNat n).toBitVec = BitVec.ofNat 32 n := rfl
  cases negative with
  | true => simp [wrap, BitVec.ofInt_neg, bits]
  | false => simp [wrap, bits]

/-- The unsigned parser reads the low bits of the number. -/
theorem parseUnsigned32_bits {s : Bytes} {n : Int} {out : UInt32} (numeral : Numeral s n)
    (parsed : parseUnsigned32 s = some out) : out.toBitVec = BitVec.ofInt 32 n := by
  cases numeral with
  | address address =>
      rcases parseUnsigned32_eq_some_iff.mp parsed with ⟨m, other, -, rfl⟩ | ⟨minus, m, loose, -⟩
      · obtain rfl := address_unique address other
        exact wrap_eq_ofInt false _
      · exact absurd loose (not_loose_of_address address)
  | loose loose =>
      rcases parseUnsigned32_eq_some_iff.mp parsed with
        ⟨m, address, -⟩ | ⟨minus, m, other, -, rfl⟩
      · exact absurd loose (not_loose_of_address address)
      · obtain ⟨rfl, rfl⟩ := loose_unique loose other
        exact wrap_eq_ofInt _ _

theorem not_minus_of_numeral {s : Bytes} {n : Int} (numeral : Numeral s n) :
    s.head? ≠ some 45 := by
  cases numeral with
  | address address =>
      cases address with
      | decimal numeral =>
          intro minus
          have digit := digitValue_ten_isSome_iff.mp
            (numeral.digits 45 (List.mem_of_mem_head? minus))
          exact absurd digit (by decide)
      | hexadecimal => simp
  | loose loose =>
      obtain ⟨-⟩ := loose
      simp

/-- The sentinel of an accepted field is the declared number, cut down to 32 bits. -/
theorem parseNanValue_bits {name : Bytes} {value : Json} {n : Int} {nanSentinel : Option UInt32}
    (declared : NanNumber value n) (parsed : parseNanValue name value = .ok nanSentinel) :
    nanSentinel = some (.ofBitVec (.ofInt 32 n)) := by
  cases declared with
  | number n =>
      rw [parseNanValue] at parsed
      split at parsed
      · exact (Except.ok.inj parsed).symm
      · contradiction
  | unsigned numeral =>
      rw [parseNanValue] at parsed
      rw [if_neg (not_minus_of_numeral numeral)] at parsed
      split at parsed
      next sentinel read =>
        rw [← Except.ok.inj parsed, ← parseUnsigned32_bits numeral read]
      · contradiction
  | signed minus numeral =>
      rw [parseNanValue] at parsed
      rw [if_pos (by rw [minus]; rfl)] at parsed
      split at parsed
      next sentinel read =>
        obtain ⟨rest, magnitude, same, magnitudeRead, -, rfl⟩ :=
          parseSigned32AsBits_eq_some_iff.mp read
        obtain rfl := (List.cons.inj (minus.symm.trans same)).2
        have bits := parseUnsigned32_bits numeral magnitudeRead
        rw [← Except.ok.inj parsed, BitVec.ofInt_neg, ← bits]
        simp
      · contradiction

/-! ## Suppressed readings -/

variable {lib : ArduinoJson} {obj : Json} {schemaVer : Int} {field : Field}

/-- What `parseField` takes from the `nan_value` of an entry. -/
theorem parseField_nanValue (schema : 2 ≤ schemaVer)
    (accepted : parseField lib obj schemaVer = .ok field) :
    ∃ name, parseNanValue name (obj.member (ascii "nan_value")) = .ok field.nanSentinel := by
  rw [parseField] at accepted
  split at accepted
  · contradiction
  · split at accepted
    · contradiction
    · obtain ⟨scale, -, accepted⟩ := bind_eq_ok.mp accepted
      rw [if_neg (by omega)] at accepted
      obtain ⟨nanSentinel, parsed, accepted⟩ := bind_eq_ok.mp accepted
      obtain ⟨bits, -, accepted⟩ := bind_eq_ok.mp accepted
      obtain rfl := Except.ok.inj accepted
      exact ⟨_, parsed⟩

/-- A field publishes nothing, if and only if its words are the low bits of the declared number. -/
theorem emitField_eq_nil_iff (single : SinglePrecision) {n : Int} (schema : 2 ≤ schemaVer)
    (accepted : parseField lib obj schemaVer = .ok field)
    (declared : NanNumber (obj.member (ascii "nan_value")) n) {words : List Word}
    (enough : wordSize field.type ≤ words.length) :
    emitField single words field = some [] ↔
      BitVec.ofInt (fieldWidth field) n = wireValue field fun i => words.getD i 0 := by
  obtain ⟨name, parsed⟩ := parseField_nanValue schema accepted
  have sentinel := parseNanValue_bits declared parsed
  rw [emitField_eq_some single (parseField_eq_ok accepted).1 enough, Option.some.injEq,
    fieldPoints_eq_nil_iff, suppressed, isNan_iff sentinel, wireValue]
  have narrow : fieldWidth field ≤ 32 := by
    rw [fieldWidth]
    rcases wordSize_eq field.type with size | size <;> omega
  have cut : (BitVec.ofInt 32 n).setWidth (fieldWidth field) =
      BitVec.ofInt (fieldWidth field) n := by
    refine BitVec.eq_of_toNat_eq ?_
    rw [BitVec.toNat_setWidth, BitVec.toNat_ofInt, BitVec.toNat_ofInt]
    rw [fieldWidth]
    rcases wordSize_eq field.type with size | size <;> rw [size] <;> omega
  rw [UInt32.toBitVec_ofBitVec, cut]

/-- A field publishes nothing for the declared number alone, if and only if that is a number of the
width of the field, or these words are not its low bits. -/
theorem nan_value_exact_iff (single : SinglePrecision) {n : Int} (schema : 2 ≤ schemaVer)
    (accepted : parseField lib obj schemaVer = .ok field)
    (declared : NanNumber (obj.member (ascii "nan_value")) n) {words : List Word}
    (enough : wordSize field.type ≤ words.length) :
    (emitField single words field = some [] ↔
        Holds (wireValue field fun i => words.getD i 0) n) ↔
      Fits (fieldWidth field) n ∨
        BitVec.ofInt (fieldWidth field) n ≠ wireValue field fun i => words.getD i 0 := by
  rw [emitField_eq_nil_iff single schema accepted declared enough]
  exact cut_exact_iff (fieldWidth_pos field)

/-- A `nan_value` of more bits than the field. -/
def wideSentinel : Json :=
  .object [(ascii "name", .string (ascii "soc")), (ascii "nan_value", .integer 65536)]

theorem wideSentinel_accepted :
    ∃ field, parseField (flatJson []) wideSentinel 2 = .ok field ∧
      (wordSize field.type = 1 ∧ (emitField wholeNumbers [0] field).any List.isEmpty) := by
  have accepted : (parseField (flatJson []) wideSentinel 2).toOption.any (fun field =>
      wordSize field.type = 1 ∧ (emitField wholeNumbers [0] field).any List.isEmpty) = true := by
    decide +kernel
  exact (exists_ok accepted).imp fun _ => And.imp_right of_decide_eq_true

theorem nan_value_exact_soc :
    ∃ field, parseField (flatJson []) wideSentinel 2 = .ok field ∧
      ((emitField wholeNumbers [0] field = some [] ↔
          Holds (wireValue field fun i => [0].getD i 0) 65536) ↔
        Fits (fieldWidth field) 65536 ∨
          BitVec.ofInt (fieldWidth field) 65536 ≠ wireValue field fun i => [0].getD i 0) := by
  obtain ⟨field, accepted, size, -⟩ := wideSentinel_accepted
  exact ⟨field, accepted, nan_value_exact_iff wholeNumbers (by decide) accepted (.number 65536)
    (le_of_eq size)⟩

/-- A reading of 0 is suppressed for a `nan_value` of 65536. -/
theorem nan_value_suppresses_zero :
    ∃ field, parseField (flatJson []) wideSentinel 2 = .ok field ∧
      NanNumber (wideSentinel.member (ascii "nan_value")) 65536 ∧
      emitField wholeNumbers [0] field = some [] ∧
      ¬ Holds (wireValue field fun i => [0].getD i 0) 65536 := by
  obtain ⟨field, accepted, size, suppressed⟩ := wideSentinel_accepted
  obtain ⟨points, emitted, empty⟩ := (Option.any_eq_true _ _).mp suppressed
  refine ⟨field, accepted, .number 65536, ?_, fun holds => ?_⟩
  · rw [emitted, List.isEmpty_iff.mp empty]
  · have fits := (fits_of_holds (fieldWidth_pos field) holds).2
    rw [fieldWidth, size] at fits
    contradiction

end GenericModbusDevice

end ModbusBridge
