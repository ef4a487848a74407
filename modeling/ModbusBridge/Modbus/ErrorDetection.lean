import ModbusBridge.Library.ErrorPatterns
import ModbusBridge.Modbus.Server

/-!
# Frames that arrive damaged

The check of a frame detects every odd number of flipped bits and every burst that fits into the
checksum, wherever it lies: in the data, in the checksum or across both.
-/

namespace ModbusBridge

open ShiftRegister

theorem withCRC_eq_withChecksum (frame : Bytes) : withCRC frame = withChecksum frame := by
  rw [withCRC, withChecksum, lowByte_eq_lower, highByte_eq_upper, calculateCRC_eq_checksum]

/-- A frame that is accepted leaves the register of the client empty. -/
theorem codeword_of_validateCRC {frame : Bytes} (valid : validateCRC frame = true) :
    Codeword (0xA001 : Word) 0xFFFF frame := by
  rw [eq_withChecksum_of_validateCRC valid]
  exact codeword_withChecksum _

theorem mem_stream_of_ne_zero {error : Bytes} (nonzero : ∃ byte ∈ error, byte ≠ 0) :
    true ∈ stream error := by
  obtain ⟨byte, member, some_bit⟩ := nonzero
  rw [stream, List.mem_flatMap]
  refine ⟨byte, member, ?_⟩
  by_contra clear
  refine some_bit (UInt8.toBitVec_inj.mp (BitVec.eq_of_getLsbD_eq fun i inside => ?_))
  rw [bits_eq_map, List.mem_map] at clear
  simpa using fun flipped => clear ⟨i, List.mem_range.mpr inside, flipped⟩

/-- A frame with its checksum is accepted. It is not when an odd number of bits is flipped, nor when
all flipped bits lie within sixteen consecutive positions. -/
theorem validateCRC_detects {frame : Bytes} (nonempty : frame ≠ []) :
    validateCRC (withCRC frame) = true ∧
      ∀ error : Bytes, error.length = (withCRC frame).length → (∃ byte ∈ error, byte ≠ 0) →
        (Odd (flips error) ∨ Burst 16 error) →
          validateCRC (corrupt (withCRC frame) error) = false := by
  rw [withCRC_eq_withChecksum]
  refine ⟨validateCRC_withChecksum nonempty, fun error same nonzero pattern => ?_⟩
  by_contra accepted
  rw [Bool.not_eq_false] at accepted
  have unnoticed := (Codeword.corrupt_iff (by decide) (codeword_withChecksum frame) same.symm).mp
    (codeword_of_validateCRC accepted)
  rcases pattern with odd | ⟨start, window⟩
  · exact foldl_ne_zero_of_odd (by decide) (by decide) (count_stream error ▸ odd) unnoticed
  · have inside : ∀ position, (stream error).getD position false = true →
        start ≤ position ∧ position < start + 16 := by
      intro position flipped
      exact window position (getD_stream error position ▸ flipped)
    exact foldl_ne_zero_of_burst (by decide) (mem_stream_of_ne_zero nonzero) inside unnoticed

/-- A burst across the data and the checksum of a request. -/
theorem validateCRC_detects_burst :
    let frame : Bytes := [1, 3, 0, 0, 0, 10]
    let error : Bytes := [0, 0, 0, 0, 0, 0x80, 0xFF, 0x7F]
    validateCRC (withCRC frame) = true ∧ validateCRC (corrupt (withCRC frame) error) = false := by
  intro frame error
  obtain ⟨intact, detects⟩ := validateCRC_detects (show frame ≠ [] by decide)
  have same : error.length = (withCRC frame).length := by rw [withCRC, List.length_append]; rfl
  refine ⟨intact, detects error same ⟨0x80, by decide, by decide⟩ (.inr ⟨47, ?_⟩)⟩
  have within : ∀ position < 64, bitAt error position = true → 47 ≤ position ∧ position < 63 := by
    decide +kernel
  intro position flipped
  by_cases inside : position < 64
  · exact within position inside flipped
  · have length : error.length = 8 := rfl
    rw [bitAt, List.getD_eq_default _ _ (by omega)] at flipped
    simp at flipped

end ModbusBridge
