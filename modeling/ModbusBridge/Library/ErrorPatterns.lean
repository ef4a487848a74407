import Mathlib.Algebra.Ring.Parity
import Mathlib.Data.List.GetD
import ModbusBridge.Library.ShiftRegister

/-!
# Errors that a shift register detects

An error pattern flips bits of a codeword. The register is linear, so an error goes unnoticed when
it leaves an empty register empty. No pattern with an odd number of bits does when the polynomial
has an even number of terms, and no pattern within as many places as the register has.
-/

namespace ShiftRegister

variable {w : Nat} {poly : BitVec w}

/-! ## Bits of words -/

theorem bits_eq_map (count : Nat) (word : BitVec w) :
    bits count word = (List.range count).map word.getLsbD := by
  induction count generalizing word with
  | zero => rfl
  | succ count induction =>
      rw [bits, induction, List.range_succ_eq_map, List.map_cons, List.map_map]
      congr 1
      apply List.map_congr_left
      intro i _
      simp [Nat.add_comm]

theorem bits_xor (count : Nat) (left right : BitVec w) :
    bits count (left ^^^ right) = List.zipWith xor (bits count left) (bits count right) := by
  simp [bits_eq_map]

theorem length_bits (count : Nat) (word : BitVec w) : (bits count word).length = count := by
  simp [bits_eq_map]

/-- A word whose lowest bits are given. -/
def pack (w : Nat) (flips : List Bool) : BitVec w := (BitVec.ofBoolListLE flips).setWidth w

theorem getLsbD_pack {flips : List Bool} (short : flips.length ≤ w) (i : Nat) :
    (pack w flips).getLsbD i = flips.getD i false := by
  rw [pack, BitVec.getLsbD_setWidth, BitVec.getLsbD_ofBoolListLE]
  by_cases inside : i < w
  · simp [inside]
  · simp [List.getElem?_eq_none (Nat.le_trans short (Nat.le_of_not_lt inside))]

theorem bits_pack {flips : List Bool} (short : flips.length ≤ w) :
    bits flips.length (pack w flips) = flips := by
  rw [bits_eq_map]
  apply List.ext_getElem
  · simp
  · intro i _ inside
    simp [getLsbD_pack short, inside]

theorem pack_shiftRight {flips : List Bool} (short : flips.length ≤ w) :
    pack w flips >>> flips.length = 0#w := by
  apply BitVec.eq_of_getLsbD_eq
  intro i _
  simp [getLsbD_pack short]

theorem pack_ne_zero {flips : List Bool} (short : flips.length ≤ w) (nonzero : true ∈ flips) :
    pack w flips ≠ 0#w := by
  intro zero
  obtain ⟨i, inside, bit⟩ := List.getElem_of_mem nonzero
  have clear := getLsbD_pack short i
  rw [zero, List.getD_eq_getElem _ _ inside, bit] at clear
  simp at clear

/-! ## Linearity -/

theorem low_xor (left right : Bool) : low w (left ^^ right) = low w left ^^^ low w right := by
  apply BitVec.eq_of_getLsbD_eq
  intro i _
  rw [BitVec.getLsbD_xor, getLsbD_low, getLsbD_low, getLsbD_low, Bool.and_xor_distrib_left]

theorem feedBit_xor (poly state added : BitVec w) (bit flip : Bool) :
    feedBit poly (state ^^^ added) (bit ^^ flip) =
      feedBit poly state bit ^^^ feedBit poly added flip := by
  rw [feedBit, feedBit, feedBit, low_xor, ← shift_xor]
  congr 1
  ac_rfl

/-- The register of a sum is the sum of the registers. -/
theorem foldl_feedBit_xor (poly state added : BitVec w) {dividend flips : List Bool}
    (same : dividend.length = flips.length) :
    (List.zipWith xor dividend flips).foldl (feedBit poly) (state ^^^ added) =
      dividend.foldl (feedBit poly) state ^^^ flips.foldl (feedBit poly) added := by
  induction dividend generalizing flips state added with
  | nil =>
      obtain rfl := List.length_eq_zero_iff.mp same.symm
      rfl
  | cons bit dividend induction =>
      cases flips with
      | nil => contradiction
      | cons flip flips =>
          rw [List.zipWith_cons_cons, List.foldl_cons, feedBit_xor,
            induction _ _ (Nat.succ.inj same)]
          rfl

/-! ## Error patterns -/

/-- What arrives instead of a frame. -/
def corrupt (frame error : List UInt8) : List UInt8 := List.zipWith (· ^^^ ·) frame error

/-- A bit of a string: bytes in order, least significant bit first. -/
def bitAt (bytes : List UInt8) (position : Nat) : Bool :=
  (bytes.getD (position / 8) 0).toBitVec.getLsbD (position % 8)

/-- The number of bits that an error flips. -/
def flips (error : List UInt8) : Nat := (List.range (8 * error.length)).countP (bitAt error)

/-- All flipped bits lie within so many consecutive positions. -/
def Burst (width : Nat) (error : List UInt8) : Prop :=
  ∃ start, ∀ position, bitAt error position = true → start ≤ position ∧ position < start + width

theorem stream_cons (byte : UInt8) (bytes : List UInt8) :
    stream (byte :: bytes) = bits 8 byte.toBitVec ++ stream bytes := rfl

theorem length_stream (bytes : List UInt8) : (stream bytes).length = 8 * bytes.length := by
  induction bytes with
  | nil => rfl
  | cons byte bytes induction =>
      rw [stream_cons, List.length_append, length_bits, induction, List.length_cons]
      omega

theorem stream_corrupt {frame error : List UInt8} (same : frame.length = error.length) :
    stream (corrupt frame error) = List.zipWith xor (stream frame) (stream error) := by
  induction frame generalizing error with
  | nil =>
      obtain rfl := List.length_eq_zero_iff.mp same.symm
      rfl
  | cons byte frame induction =>
      cases error with
      | nil => contradiction
      | cons flipped error =>
          have rest := induction (Nat.succ.inj same)
          rw [corrupt] at rest
          rw [corrupt, List.zipWith_cons_cons, stream_cons, stream_cons, stream_cons, rest,
            UInt8.toBitVec_xor, bits_xor, List.zipWith_append]
          rw [length_bits, length_bits]

theorem getD_stream (bytes : List UInt8) (position : Nat) :
    (stream bytes).getD position false = bitAt bytes position := by
  induction bytes generalizing position with
  | nil => simp [stream, bitAt]
  | cons byte bytes induction =>
      by_cases first : position < 8
      · rw [stream_cons, List.getD_append _ _ _ _ (by rwa [length_bits]), bits_eq_map, bitAt,
          Nat.div_eq_of_lt first, Nat.mod_eq_of_lt first]
        simp [first]
      · obtain ⟨later, rfl⟩ := Nat.exists_eq_add_of_le (Nat.le_of_not_lt first)
        rw [stream_cons, List.getD_append_right _ _ _ _ (by rw [length_bits]; omega), length_bits,
          Nat.add_sub_cancel_left, induction, bitAt, bitAt, Nat.add_mod_left,
          Nat.add_div_left _ (by decide)]
        rfl

theorem stream_eq_map (bytes : List UInt8) :
    stream bytes = (List.range (8 * bytes.length)).map (bitAt bytes) := by
  apply List.ext_getElem
  · rw [length_stream, List.length_map, List.length_range]
  · intro i inside _
    rw [List.getElem_map, List.getElem_range, ← getD_stream, List.getD_eq_getElem _ _ inside]

theorem count_stream (error : List UInt8) : (stream error).count true = flips error := by
  rw [stream_eq_map, List.count, List.countP_map, flips]
  congr 1
  funext position
  simp

/-- An error goes unnoticed when it leaves an empty register empty. -/
theorem Codeword.corrupt_iff (wide : 8 ≤ w) {preset : BitVec w} {frame error : List UInt8}
    (codeword : Codeword poly preset frame) (same : frame.length = error.length) :
    Codeword poly preset (corrupt frame error) ↔
      (stream error).foldl (feedBit poly) 0#w = 0#w := by
  have lengths : (stream frame).length = (stream error).length := by
    rw [length_stream, length_stream, same]
  have sum := foldl_feedBit_xor poly preset 0#w lengths
  rw [Codeword, run_eq_stream wide] at codeword
  rw [BitVec.xor_zero, codeword, BitVec.zero_xor] at sum
  rw [Codeword, run_eq_stream wide, stream_corrupt same, sum]

/-! ## An odd number of bits -/

/-- Whether an odd number of bits is set. -/
def parity (flips : List Bool) : Bool := flips.foldr xor false

theorem parity_append (left right : List Bool) :
    parity (left ++ right) = (parity left ^^ parity right) := by
  induction left with
  | nil => simp [parity]
  | cons bit left induction =>
      simp only [parity, List.cons_append, List.foldr_cons] at induction ⊢
      rw [induction, Bool.xor_assoc]

theorem parity_zipWith {left right : List Bool} (same : left.length = right.length) :
    parity (List.zipWith xor left right) = (parity left ^^ parity right) := by
  induction left generalizing right with
  | nil =>
      obtain rfl := List.length_eq_zero_iff.mp same.symm
      rfl
  | cons bit left induction =>
      cases right with
      | nil => contradiction
      | cons flip right =>
          have rest := induction (Nat.succ.inj same)
          simp only [parity, List.zipWith_cons_cons, List.foldr_cons] at rest ⊢
          rw [rest, Bool.xor_assoc, Bool.xor_assoc, Bool.xor_left_comm flip]

theorem parity_eq (flips : List Bool) : parity flips = decide (Odd (flips.count true)) := by
  induction flips with
  | nil => simp [parity]
  | cons flip flips induction =>
      rw [parity, List.foldr_cons, ← parity, induction]
      cases flip <;> simp [Nat.odd_add_one, -Nat.not_odd_iff_even]

/-- A bit falls out at the low end and a zero comes in at the high end. -/
theorem parity_shiftRight (state : BitVec w) :
    parity (bits w state) = (state.getLsbD 0 ^^ parity (bits w (state >>> 1))) := by
  have first : bits (w + 1) state = state.getLsbD 0 :: bits w (state >>> 1) := rfl
  have last : bits (w + 1) state = bits w state ++ [false] := by
    rw [bits_eq_map, bits_eq_map, List.range_succ, List.map_append, List.map_singleton,
      BitVec.getLsbD_of_ge state w (Nat.le_refl w)]
  have same := congrArg parity (last.symm.trans first)
  rw [parity_append] at same
  simpa [parity] using same

/-- A polynomial with an even number of terms has one bit less in the register. -/
theorem parity_shift (even : parity (bits w poly) = true) (state : BitVec w) :
    parity (bits w (shift poly state)) = parity (bits w state) := by
  have added : parity (bits w (state >>> 1 ^^^ poly)) = !parity (bits w (state >>> 1)) := by
    rw [bits_xor, parity_zipWith (by rw [length_bits, length_bits]), even, Bool.xor_true]
  rw [parity_shiftRight state, shift]
  split
  next odd => rw [added, odd, Bool.true_xor]
  next none => rw [Bool.not_eq_true _ |>.mp none, Bool.false_xor]

theorem parity_zero : parity (bits w 0#w) = false := by
  have twice := parity_zipWith (Eq.refl (bits w 0#w).length)
  rw [← bits_xor, BitVec.xor_self, Bool.xor_self] at twice
  exact twice

theorem parity_low (positive : 0 < w) (bit : Bool) : parity (bits w (low w bit)) = bit := by
  rw [parity_shiftRight, low_shiftRight, getLsbD_low, parity_zero]
  simp [positive]

theorem parity_foldl (positive : 0 < w) (even : parity (bits w poly) = true) (state : BitVec w)
    (flips : List Bool) :
    parity (bits w (flips.foldl (feedBit poly) state)) =
      (parity (bits w state) ^^ parity flips) := by
  induction flips generalizing state with
  | nil => simp [parity]
  | cons flip flips induction =>
      rw [List.foldl_cons, induction, feedBit, parity_shift even, bits_xor,
        parity_zipWith (by rw [length_bits, length_bits]), parity_low positive, Bool.xor_assoc]
      rfl

/-- The register keeps an odd number of bits odd. -/
theorem foldl_ne_zero_of_odd (positive : 0 < w) (even : parity (bits w poly) = true)
    {flips : List Bool} (odd : Odd (flips.count true)) :
    flips.foldl (feedBit poly) 0#w ≠ 0#w := by
  intro zero
  have kept := parity_foldl positive even 0#w flips
  rw [zero, parity_zero, Bool.false_xor, parity_eq, decide_eq_true odd] at kept
  contradiction

/-! ## Bursts -/

theorem shift_zero (poly : BitVec w) : shift poly 0#w = 0#w := by simp [shift]

theorem shifts_ne_zero (top : poly.msb = true) (count : Nat) {state : BitVec w}
    (nonzero : state ≠ 0#w) : (shift poly)^[count] state ≠ 0#w := by
  intro zero
  have fixed : (shift poly)^[count] 0#w = 0#w := Function.iterate_fixed (shift_zero poly) count
  exact nonzero ((shift_injective top).iterate count (zero.trans fixed.symm))

theorem feedBit_false (poly state : BitVec w) : feedBit poly state false = shift poly state := by
  simp [feedBit, low]

/-- Behind the last flipped bit, the register only shifts. -/
theorem foldl_feedBit_of_all_false (poly state : BitVec w) {flips : List Bool}
    (clear : ∀ flip ∈ flips, flip = false) :
    flips.foldl (feedBit poly) state = (shift poly)^[flips.length] state := by
  induction flips generalizing state with
  | nil => rfl
  | cons flip flips induction =>
      obtain rfl := clear flip List.mem_cons_self
      rw [List.foldl_cons, feedBit_false,
        induction _ fun flip member => clear flip (List.mem_cons_of_mem false member)]
      rfl

/-- As many bits as the register is wide fit into it. -/
theorem foldl_ne_zero_of_short (top : poly.msb = true) {flips : List Bool}
    (short : flips.length ≤ w) (nonzero : true ∈ flips) :
    flips.foldl (feedBit poly) 0#w ≠ 0#w := by
  have fed := shifts_eq_bits poly flips.length 0#w (pack w flips) (pack_shiftRight short)
  rw [bits_pack short, BitVec.zero_xor] at fed
  rw [← fed]
  exact shifts_ne_zero top _ (pack_ne_zero short nonzero)

theorem foldl_ne_zero_of_burst (top : poly.msb = true) {flips : List Bool} (nonzero : true ∈ flips)
    {start : Nat}
    (burst : ∀ i, flips.getD i false = true → start ≤ i ∧ i < start + w) :
    flips.foldl (feedBit poly) 0#w ≠ 0#w := by
  induction flips generalizing start with
  | nil => contradiction
  | cons flip flips induction =>
      cases flip with
      | false =>
          -- before the first flipped bit, the register stays empty
          rw [List.foldl_cons, feedBit_false, shift_zero]
          have window : ∀ i, flips.getD i false = true → start - 1 ≤ i ∧ i < start - 1 + w := by
            intro i flipped
            have inside := burst (i + 1) flipped
            omega
          exact induction (List.mem_of_ne_of_mem (by decide) nonzero) window
      | true =>
          have window := burst 0 rfl
          have later : ∀ flip ∈ (true :: flips).drop w, flip = false := by
            intro flip member
            obtain ⟨i, inside, rfl⟩ := List.getElem_of_mem member
            rw [List.getElem_drop]
            by_contra flipped
            rw [Bool.not_eq_false] at flipped
            rw [List.length_drop] at inside
            have outside := burst (w + i) (by rwa [List.getD_eq_getElem _ _ (by omega)])
            omega
          have first : true ∈ (true :: flips).take w := by
            obtain ⟨width, rfl⟩ := Nat.exists_eq_succ_of_ne_zero (show w ≠ 0 by omega)
            exact List.mem_cons_self
          have kept := foldl_ne_zero_of_short top (List.length_take_le w (true :: flips)) first
          rw [← List.take_append_drop w (true :: flips), List.foldl_append,
            foldl_feedBit_of_all_false poly _ later]
          exact shifts_ne_zero top _ kept

end ShiftRegister
