import Mathlib.Logic.Function.Iterate

/-!
# Shift registers for cyclic redundancy checks

A register of `w` bits shifts to the right; a bit that falls out adds the polynomial. A byte is fed
by adding it to the low end of the register and shifting eight times. The register is the mirror
image of the long division by the polynomial, bit by bit and highest power first.
-/

namespace ShiftRegister

variable {w : Nat}

/-- One shift: the bit that falls out adds the polynomial. -/
def shift (poly state : BitVec w) : BitVec w :=
  if state.getLsbD 0 then (state >>> 1) ^^^ poly else state >>> 1

/-- Feed one byte. -/
def feed (poly state : BitVec w) (byte : UInt8) : BitVec w :=
  (shift poly)^[8] (state ^^^ byte.toBitVec.setWidth w)

/-- Feed bytes, first to last. -/
def run (poly state : BitVec w) (bytes : List UInt8) : BitVec w :=
  bytes.foldl (feed poly) state

theorem run_append (poly state : BitVec w) (left right : List UInt8) :
    run poly state (left ++ right) = run poly (run poly state left) right :=
  List.foldl_append

/-! ## Nothing is lost -/

theorem msb_shift {poly : BitVec w} (top : poly.msb = true) (state : BitVec w) :
    (shift poly state).msb = state.getLsbD 0 := by
  rw [shift]
  split
  · simp_all [BitVec.msb_xor, BitVec.msb_ushiftRight]
  · simp_all [BitVec.msb_ushiftRight]

/-- With a polynomial of full degree, a shift can be undone. -/
theorem shift_injective {poly : BitVec w} (top : poly.msb = true) :
    Function.Injective (shift poly) := by
  intro left right same
  have lowest : left.getLsbD 0 = right.getLsbD 0 := by
    rw [← msb_shift top left, ← msb_shift top right, same]
  have others : left >>> 1 = right >>> 1 := by
    unfold shift at same
    rw [lowest] at same
    split at same
    · exact BitVec.xor_left_inj poly |>.mp same
    · exact same
  apply BitVec.eq_of_getLsbD_eq
  intro i _
  cases i with
  | zero => exact lowest
  | succ i =>
      have bit := congrArg (BitVec.getLsbD · i) others
      simpa [Nat.add_comm] using bit

theorem feed_injective {poly : BitVec w} (top : poly.msb = true) (byte : UInt8) :
    Function.Injective (feed poly · byte) := by
  intro left right same
  exact BitVec.xor_left_inj _ |>.mp ((shift_injective top).iterate 8 same)

theorem run_injective {poly : BitVec w} (top : poly.msb = true) (bytes : List UInt8) :
    Function.Injective (run poly · bytes) := by
  induction bytes with
  | nil => exact fun _ _ same => same
  | cons byte bytes induction =>
      intro left right same
      exact feed_injective top byte (induction same)

/-! ## Low zeros -/

theorem shift_of_even (poly : BitVec w) {state : BitVec w} (even : state.getLsbD 0 = false) :
    shift poly state = state >>> 1 := by
  simp [shift, even]

/-- Zeros at the low end just fall out. -/
theorem shifts_of_zeros (poly : BitVec w) (count : Nat) {state : BitVec w}
    (zeros : ∀ i < count, state.getLsbD i = false) :
    (shift poly)^[count] state = state >>> count := by
  induction count generalizing state with
  | zero => simp
  | succ count induction =>
      rw [Function.iterate_succ_apply, shift_of_even poly (zeros 0 (by omega)), induction,
        ← BitVec.shiftRight_add, Nat.add_comm]
      intro i bound
      simpa [Nat.add_comm] using zeros (i + 1) (by omega)

/-! ## Bit by bit -/

theorem shift_xor (poly left right : BitVec w) :
    shift poly (left ^^^ right) = shift poly left ^^^ shift poly right := by
  simp only [shift, BitVec.getLsbD_xor, BitVec.ushiftRight_xor_distrib]
  cases left.getLsbD 0 <;> cases right.getLsbD 0
  · simp
  · simp [BitVec.xor_assoc]
  · simp [BitVec.xor_assoc, BitVec.xor_comm poly]
  · have cancel : left >>> 1 ^^^ poly ^^^ (right >>> 1 ^^^ poly) =
        left >>> 1 ^^^ right >>> 1 ^^^ (poly ^^^ poly) := by
      rw [BitVec.xor_assoc, BitVec.xor_assoc, ← BitVec.xor_assoc poly, BitVec.xor_comm poly,
        BitVec.xor_assoc]
    simp [cancel]

theorem iterate_shift_xor (poly : BitVec w) (count : Nat) (left right : BitVec w) :
    (shift poly)^[count] (left ^^^ right) =
      (shift poly)^[count] left ^^^ (shift poly)^[count] right := by
  induction count generalizing left right with
  | zero => rfl
  | succ count induction => rw [Function.iterate_succ_apply, shift_xor, induction]; rfl

/-- What is added to the register before some bytes is shifted along with it. -/
theorem run_xor (poly state added : BitVec w) (bytes : List UInt8) :
    run poly (state ^^^ added) bytes =
      run poly state bytes ^^^ (shift poly)^[8 * bytes.length] added := by
  induction bytes generalizing state added with
  | nil => rfl
  | cons byte bytes induction =>
      have first : feed poly (state ^^^ added) byte =
          feed poly state byte ^^^ (shift poly)^[8] added := by
        rw [feed, feed, BitVec.xor_assoc, BitVec.xor_comm added, ← BitVec.xor_assoc,
          iterate_shift_xor]
      rw [run, List.foldl_cons, ← run, first, induction, List.length_cons, Nat.mul_succ,
        Function.iterate_add_apply]
      rfl

/-- A bit at the low end of a register. -/
def low (w : Nat) (bit : Bool) : BitVec w := (BitVec.ofBool bit).setWidth w

theorem getLsbD_low (bit : Bool) (i : Nat) :
    (low w bit).getLsbD i = (decide (i < w) && decide (i = 0) && bit) := by
  simp [low, BitVec.getLsbD_ofBool, Bool.and_assoc]

theorem low_shiftRight (bit : Bool) : low w bit >>> 1 = 0#w := by
  apply BitVec.eq_of_getLsbD_eq
  intro i _
  simp [getLsbD_low]

/-- The lowest bits of a word, lowest first. -/
def bits : Nat → BitVec w → List Bool
  | 0, _ => []
  | count + 1, word => word.getLsbD 0 :: bits count (word >>> 1)

/-- Feed one bit. -/
def feedBit (poly state : BitVec w) (bit : Bool) : BitVec w := shift poly (state ^^^ low w bit)

/-- Adding a word and shifting is feeding its bits. -/
theorem shifts_eq_bits (poly : BitVec w) (count : Nat) (state word : BitVec w)
    (short : word >>> count = 0#w) :
    (shift poly)^[count] (state ^^^ word) = (bits count word).foldl (feedBit poly) state := by
  induction count generalizing state word with
  | zero => simp_all [bits]
  | succ count induction =>
      have shifted : shift poly (state ^^^ word) =
          feedBit poly state (word.getLsbD 0) ^^^ word >>> 1 := by
        have parts : state ^^^ word =
            (state ^^^ low w (word.getLsbD 0)) ^^^ (word ^^^ low w (word.getLsbD 0)) := by
          rw [BitVec.xor_comm word, ← BitVec.xor_assoc, BitVec.xor_assoc state, BitVec.xor_self,
            BitVec.xor_zero]
        have even : (word ^^^ low w (word.getLsbD 0)).getLsbD 0 = false := by
          by_cases positive : 0 < w
          · rw [BitVec.getLsbD_xor, getLsbD_low]
            simp [positive]
          · simp [BitVec.getLsbD_of_ge _ _ (Nat.le_of_not_lt positive)]
        rw [parts, shift_xor, shift_of_even poly even, BitVec.ushiftRight_xor_distrib,
          low_shiftRight, BitVec.xor_zero, feedBit]
      rw [Function.iterate_succ_apply, shifted, induction, bits, List.foldl_cons]
      rwa [← BitVec.shiftRight_add, Nat.add_comm]

/-- The bits of bytes, lowest first in each byte. -/
def stream (bytes : List UInt8) : List Bool := bytes.flatMap fun byte => bits 8 byte.toBitVec

theorem bits_setWidth {v : Nat} (wide : w ≤ v) (count : Nat) (word : BitVec w) :
    bits count (word.setWidth v) = bits count word := by
  induction count generalizing word with
  | zero => rfl
  | succ count induction =>
      have shifted : word.setWidth v >>> 1 = (word >>> 1).setWidth v := by
        apply BitVec.eq_of_toNat_eq
        simp [BitVec.toNat_setWidth_of_le wide, BitVec.toNat_ushiftRight]
      rw [bits, bits, shifted, induction, BitVec.getLsbD_setWidth]
      by_cases positive : 0 < v
      · simp [positive]
      · simp [BitVec.getLsbD_of_ge word 0 (by omega)]

/-- Feeding bytes is feeding their bits. -/
theorem run_eq_stream (wide : 8 ≤ w) (poly state : BitVec w) (bytes : List UInt8) :
    run poly state bytes = (stream bytes).foldl (feedBit poly) state := by
  induction bytes generalizing state with
  | nil => rfl
  | cons byte bytes induction =>
      have short : byte.toBitVec.setWidth w >>> 8 = 0#w := by
        apply BitVec.eq_of_toNat_eq
        simp [BitVec.toNat_setWidth_of_le wide, BitVec.toNat_ushiftRight, Nat.shiftRight_eq_div_pow]
        exact byte.toNat_lt
      rw [run, List.foldl_cons, ← run, induction, feed, shifts_eq_bits poly 8 _ _ short,
        bits_setWidth wide, ← List.foldl_append]
      rfl

/-- Long division, highest power first: the bit that falls out and the next bit of the dividend
decide whether the polynomial is subtracted. -/
def divide (poly state : BitVec w) (bit : Bool) : BitVec w :=
  if state.msb ^^ bit then (state <<< 1) ^^^ poly else state <<< 1

/-- A shift register is a long division in a mirror. -/
theorem reverse_divide (poly state : BitVec w) (bit : Bool) :
    (divide poly state bit).reverse = feedBit poly.reverse state.reverse bit := by
  by_cases positive : 0 < w
  · have falls : (state.reverse ^^^ low w bit).getLsbD 0 = (state.msb ^^ bit) := by
      rw [BitVec.getLsbD_xor, BitVec.getLsbD_reverse, getLsbD_low]
      simp [BitVec.msb, positive]
    have moves : (state <<< 1).reverse = (state.reverse ^^^ low w bit) >>> 1 := by
      rw [BitVec.ushiftRight_xor_distrib, low_shiftRight, BitVec.xor_zero]
      apply BitVec.eq_of_getLsbD_eq
      intro i inside
      rw [BitVec.getLsbD_reverse, BitVec.getMsbD_shiftLeft, BitVec.getLsbD_ushiftRight,
        BitVec.getLsbD_reverse, Nat.add_comm]
    have adds (left right : BitVec w) :
        (left ^^^ right).reverse = left.reverse ^^^ right.reverse := by
      apply BitVec.eq_of_getLsbD_eq
      intro i _
      simp [BitVec.getLsbD_reverse]
    rw [divide, feedBit, shift]
    rw [falls, ← moves]
    split
    · exact adds _ _
    · rfl
  · obtain rfl : w = 0 := by omega
    exact BitVec.eq_of_zero_length rfl

theorem reverse_divide_foldl (poly state : BitVec w) (dividend : List Bool) :
    (dividend.foldl (divide poly) state).reverse =
      dividend.foldl (feedBit poly.reverse) state.reverse := by
  induction dividend generalizing state with
  | nil => rfl
  | cons bit dividend induction =>
      rw [List.foldl_cons, List.foldl_cons, induction, reverse_divide]

/-! ## Codewords -/

/-- A codeword leaves the register empty. -/
def Codeword (poly preset : BitVec w) (bytes : List UInt8) : Prop := run poly preset bytes = 0#w

namespace Codeword

variable {poly preset : BitVec w} {first second third : List UInt8}

/-- Codewords do not add up to a codeword. -/
theorem not_append (top : poly.msb = true) (nonzero : preset ≠ 0#w)
    (left : Codeword poly preset first) (right : Codeword poly preset second) :
    ¬ Codeword poly preset (first ++ second) := by
  intro whole
  rw [Codeword, run_append, left] at whole
  exact nonzero (run_injective top second (right.trans whole.symm))

/-- Nor do three of them, unless the second one is as long as a period of the register. -/
theorem not_append_append (top : poly.msb = true)
    (aperiodic : (shift poly)^[8 * second.length] preset ≠ preset)
    (left : Codeword poly preset first) (middle : Codeword poly preset second)
    (right : Codeword poly preset third) :
    ¬ Codeword poly preset (first ++ (second ++ third)) := by
  intro whole
  rw [Codeword, run_append, left, run_append] at whole
  have between := run_injective top third (whole.trans right.symm)
  have shifted := run_xor poly preset preset second
  rw [BitVec.xor_self, between, middle, BitVec.zero_xor] at shifted
  exact aperiodic shifted.symm

end Codeword

/-! ## Periods -/

/-- `shift` on natural numbers. -/
def shiftNat (poly state : Nat) : Nat := if state % 2 = 1 then state / 2 ^^^ poly else state / 2

/-- No state is reached again within a number of shifts. -/
def avoids (poly target : Nat) : Nat → Nat → Bool
  | 0, _ => true
  | count + 1, state =>
      -- matching on the number makes the kernel evaluate it here
      match shiftNat poly state with
      | 0 => 0 != target && avoids poly target count 0
      | next + 1 => next + 1 != target && avoids poly target count (next + 1)

theorem avoids_succ (poly target count state : Nat) :
    avoids poly target (count + 1) state =
      (shiftNat poly state != target && avoids poly target count (shiftNat poly state)) := by
  rw [avoids]
  split
  next zero => rw [zero]
  next next positive => rw [positive]

theorem toNat_shift (poly state : BitVec w) :
    (shift poly state).toNat = shiftNat poly.toNat state.toNat := by
  have half : state.toNat >>> 1 = state.toNat / 2 := Nat.shiftRight_eq_div_pow state.toNat 1
  rw [shift, shiftNat]
  by_cases odd : state.toNat % 2 = 1
  · have bit : state.getLsbD 0 = true := by simpa [BitVec.getLsbD, Nat.testBit_zero] using odd
    rw [if_pos bit, if_pos odd, BitVec.toNat_xor, BitVec.toNat_ushiftRight, half]
  · have bit : ¬ state.getLsbD 0 = true := by simpa [BitVec.getLsbD, Nat.testBit_zero] using odd
    rw [if_neg bit, if_neg odd, BitVec.toNat_ushiftRight, half]

theorem iterate_shift_ne {poly state target : BitVec w} {count : Nat}
    (avoided : avoids poly.toNat target.toNat count state.toNat = true) {steps : Nat}
    (positive : 0 < steps) (bound : steps ≤ count) : (shift poly)^[steps] state ≠ target := by
  induction count generalizing state steps with
  | zero => omega
  | succ count induction =>
      obtain ⟨steps, rfl⟩ := Nat.exists_eq_succ_of_ne_zero (Nat.ne_of_gt positive)
      rw [avoids_succ, ← toNat_shift, Bool.and_eq_true, bne_iff_ne] at avoided
      cases steps with
      | zero => exact fun same => avoided.1 (congrArg BitVec.toNat same)
      | succ steps =>
          rw [Function.iterate_succ_apply]
          exact induction avoided.2 (Nat.succ_pos steps) (by omega)

end ShiftRegister
