import OffloadFabric.Digest
import OffloadFabric.ShiftRegister

/-!
What the frame checksum detects. A step of the CRC table is eight steps of a feedback shift
register, so a change of at most four adjacent bytes always changes the checksum.
-/
namespace OffloadFabric

open ShiftRegister

/-! ### The table -/

theorem and_one_ne_zero (value : UInt32) :
    value &&& 1 ≠ 0 ↔ value.toBitVec.getLsbD 0 = true := by
  rw [ne_eq, ← UInt32.toBitVec_inj, UInt32.toBitVec_and]
  have hmask : (1 : UInt32).toBitVec = 1#32 := rfl
  rw [hmask, BitVec.and_one_eq_setWidth_ofBool_getLsbD]
  cases value.toBitVec.getLsbD 0
  · simp
  · simp

theorem toBitVec_crcTableEntry (index : UInt32) :
    (crcTableEntry index).toBitVec = shifts kCrc32cPolynomial.toBitVec 8 index.toBitVec := by
  have hstep (value : UInt32) :
      (if value &&& 1 ≠ 0 then (value >>> 1) ^^^ kCrc32cPolynomial else value >>> 1).toBitVec =
        shift kCrc32cPolynomial.toBitVec value.toBitVec := by
    unfold shift
    by_cases h : value &&& 1 ≠ 0
    · rw [if_pos h, if_pos ((and_one_ne_zero value).mp h)]
      rfl
    · rw [if_neg h, if_neg (fun hlow => h ((and_one_ne_zero value).mpr hlow))]
      rfl
  have hfold (n : Nat) : ((List.range n).foldl (fun (value : UInt32) _ =>
      if value &&& 1 ≠ 0 then (value >>> 1) ^^^ kCrc32cPolynomial else value >>> 1)
      index).toBitVec = shifts kCrc32cPolynomial.toBitVec n index.toBitVec := by
    induction n with
    | zero => rfl
    | succ n ih =>
      rw [List.range_succ, List.foldl_append, List.foldl_cons, List.foldl_nil, hstep, ih,
        shifts_succ']
  exact hfold 8

/-- The bits of a byte in the order in which the checksum takes them. -/
def bitsOf (byte : UInt8) : List Bool := (List.range 8).map byte.toBitVec.getLsbD

theorem length_bitsOf (byte : UInt8) : (bitsOf byte).length = 8 := by
  simp [bitsOf]

theorem bitsOf_injective : Function.Injective bitsOf := by
  intro byte byte' h
  apply UInt8.toBitVec_inj.mp
  apply BitVec.eq_of_getLsbD_eq
  intro i hi
  have := congrArg (·[i]?) h
  simpa [bitsOf, hi] using this

theorem getLsbD_byte (byte : UInt8) (i : Nat) :
    byte.toUInt32.toBitVec.getLsbD i = byte.toBitVec.getLsbD i := by
  rw [UInt8.toBitVec_toUInt32, BitVec.getLsbD_setWidth]
  by_cases hi : i < 32
  · simp [hi]
  · rw [BitVec.getLsbD_of_ge _ i (by omega)]
    simp

theorem getLsbD_mask (i : Nat) : (0xFF#32).getLsbD i = decide (i < 8) := by
  rw [BitVec.getLsbD_ofNat]
  have hmask : (255 : Nat) = 2 ^ 8 - 1 := rfl
  rw [hmask, Nat.testBit_two_pow_sub_one]
  by_cases hi : i < 8
  · have : i < 32 := by omega
    simp [this]
  · simp [hi]

/-- A byte is taken in as its eight bits. -/
theorem toBitVec_crcStep (state : UInt32) (byte : UInt8) :
    (crcStep state byte).toBitVec =
      absorb kCrc32cPolynomial.toBitVec state.toBitVec (bitsOf byte) := by
  have hword : (word (bitsOf byte) : BitVec 32) = byte.toUInt32.toBitVec := by
    apply BitVec.eq_of_getLsbD_eq
    intro i hi
    rw [getLsbD_word, getLsbD_byte]
    by_cases hlow : i < 8
    · simp [bitsOf, hi, hlow]
    · rw [BitVec.getLsbD_of_ge _ i (by omega), List.getD_eq_default _ _
        (by rw [length_bitsOf]; omega)]
      simp
  have hshift : byte.toUInt32.toBitVec >>> 8 = 0#32 := by
    apply BitVec.eq_of_getLsbD_eq
    intro i hi
    rw [BitVec.getLsbD_ushiftRight, getLsbD_byte, BitVec.getLsbD_of_ge _ _ (by omega)]
    simp
  rw [absorb_eq_shifts _ _ (by rw [length_bitsOf]; omega), length_bitsOf, hword]
  rw [@shifts_split 32 _ _ _ ((state.toBitVec ^^^ byte.toUInt32.toBitVec) &&& 0xFF#32),
    BitVec.ushiftRight_xor_distrib, hshift, BitVec.xor_zero]
  · rw [crcStep, UInt32.toBitVec_xor, toBitVec_crcTableEntry]
    rfl
  · intro i hi
    rw [BitVec.getLsbD_and, getLsbD_mask]
    simp [hi]
  · intro i hi
    rw [BitVec.getLsbD_and, getLsbD_mask]
    simp [hi]

/-! ### Byte strings -/

theorem toBitVec_crcFold (data : Bytes) (state : UInt32) :
    (data.foldl crcStep state).toBitVec =
      absorb kCrc32cPolynomial.toBitVec state.toBitVec (data.flatMap bitsOf) := by
  induction data generalizing state with
  | nil => rfl
  | cons byte rest ih =>
    rw [List.foldl_cons, ih, toBitVec_crcStep, List.flatMap_cons, absorb_append]

theorem length_flatMap_bitsOf (data : Bytes) : (data.flatMap bitsOf).length = 8 * data.length := by
  induction data with
  | nil => rfl
  | cons byte rest ih =>
    rw [List.flatMap_cons, List.length_append, ih, length_bitsOf, List.length_cons]
    omega

theorem flatMap_bitsOf_injective {data data' : Bytes}
    (h : data.flatMap bitsOf = data'.flatMap bitsOf) :
    data = data' := by
  induction data generalizing data' with
  | nil =>
    have := congrArg List.length h
    rw [length_flatMap_bitsOf, length_flatMap_bitsOf] at this
    exact (List.eq_nil_of_length_eq_zero (by simpa using this.symm)).symm
  | cons byte rest ih =>
    cases data' with
    | nil =>
      have := congrArg List.length h
      rw [length_flatMap_bitsOf, length_flatMap_bitsOf] at this
      simp at this
    | cons byte' rest' =>
      rw [List.flatMap_cons, List.flatMap_cons] at h
      obtain ⟨hbyte, hrest⟩ := List.append_inj h (by rw [length_bitsOf, length_bitsOf])
      rw [bitsOf_injective hbyte, ih hrest]

theorem crc32c_ne_of_parts (before after : Bytes) {burst burst' : Bytes} (seed : UInt32)
    (hshort : burst.length ≤ 4) (hlength : burst'.length = burst.length) (hne : burst ≠ burst') :
    crc32c (before ++ burst ++ after) seed ≠ crc32c (before ++ burst' ++ after) seed := by
  intro h
  have hstate := congrArg (fun sum => (sum ^^^ 0xFFFFFFFF).toBitVec) h
  simp only [crc32c, UInt32.xor_assoc, UInt32.xor_self, UInt32.xor_zero] at hstate
  rw [toBitVec_crcFold, toBitVec_crcFold] at hstate
  simp only [List.flatMap_append] at hstate
  apply @absorb_burst 32 kCrc32cPolynomial.toBitVec _ _ (by decide) _ _ _ _ _ _ hstate
  · rw [length_flatMap_bitsOf]
    omega
  · rw [length_flatMap_bitsOf, length_flatMap_bitsOf, hlength]
  · intro hbits
    exact hne (flatMap_bitsOf_injective hbits)

/-! ### Bursts -/

/-- The bytes differ, and only within the `width` bytes from `offset` on. -/
structure Burst (offset width : Nat) (data data' : Bytes) : Prop where
  length_eq : data'.length = data.length
  ne : data' ≠ data
  outside : ∀ i, i < offset ∨ offset + width ≤ i → data'[i]? = data[i]?

namespace Burst

variable {offset width : Nat} {data data' : Bytes}

/-- Other bytes of the same length in one place. -/
theorem splice (before after : Bytes) {burst burst' : Bytes}
    (hlength : burst'.length = burst.length) (hne : burst' ≠ burst) :
    Burst before.length burst.length (before ++ burst ++ after) (before ++ burst' ++ after) where
  length_eq := by simp only [List.length_append, hlength]
  ne := by
    intro heq
    exact hne (List.append_cancel_left (List.append_cancel_right heq))
  outside := by
    intro i hi
    rcases hi with hfront | hback
    · rw [List.append_assoc, List.append_assoc, List.getElem?_append_left hfront,
        List.getElem?_append_left hfront]
    · have hlong : (before ++ burst).length ≤ i := by
        rw [List.length_append]
        omega
      have hlong' : (before ++ burst').length ≤ i := by
        rw [List.length_append]
        omega
      rw [List.getElem?_append_right hlong, List.getElem?_append_right hlong',
        List.length_append, List.length_append, hlength]

theorem take_eq (h : Burst offset width data data') {count : Nat} (hcount : count ≤ offset) :
    data'.take count = data.take count := by
  apply List.ext_getElem?
  intro i
  rw [List.getElem?_take, List.getElem?_take]
  split
  · exact h.outside i (by omega)
  · rfl

theorem drop_eq (h : Burst offset width data data') {count : Nat}
    (hcount : offset + width ≤ count) :
    data'.drop count = data.drop count := by
  apply List.ext_getElem?
  intro i
  rw [List.getElem?_drop, List.getElem?_drop]
  exact h.outside _ (by omega)

/-- A burst before `count` is a burst of the first `count` bytes. -/
theorem take (h : Burst offset width data data') {count : Nat} (hcount : offset + width ≤ count) :
    Burst offset width (data.take count) (data'.take count) where
  length_eq := by rw [List.length_take, List.length_take, h.length_eq]
  ne := by
    intro heq
    apply h.ne
    rw [← List.take_append_drop count data', heq, h.drop_eq hcount, List.take_append_drop]
  outside := by
    intro i hi
    rw [List.getElem?_take, List.getElem?_take]
    split
    · exact h.outside i hi
    · rfl

/-- A burst that leaves the first bytes alone is one of the bytes behind them. -/
theorem drop (h : Burst offset width data data') {count : Nat}
    (hsame : data'.take count = data.take count) :
    Burst (offset - count) width (data.drop count) (data'.drop count) where
  length_eq := by rw [List.length_drop, List.length_drop, h.length_eq]
  ne := by
    intro heq
    apply h.ne
    rw [← List.take_append_drop count data', heq, hsame, List.take_append_drop]
  outside := by
    intro i hi
    rw [List.getElem?_drop, List.getElem?_drop]
    exact h.outside _ (by omega)

/-- A change of at most four adjacent bytes changes the checksum. -/
theorem crc32c_ne (h : Burst offset width data data') (hwidth : width ≤ 4) (seed : UInt32) :
    crc32c data' seed ≠ crc32c data seed := by
  have hsplit (bytes : Bytes) : bytes =
      bytes.take offset ++ (bytes.drop offset).take width ++ bytes.drop (offset + width) := by
    rw [List.append_assoc, ← List.drop_drop, List.take_append_drop, List.take_append_drop]
  have hbefore := h.take_eq (Nat.le_refl offset)
  have hafter := h.drop_eq (Nat.le_refl (offset + width))
  rw [hsplit data', hsplit data, hbefore, hafter]
  apply crc32c_ne_of_parts
  · rw [List.length_take]
    omega
  · rw [List.length_take, List.length_take, List.length_drop, List.length_drop, h.length_eq]
  · intro hsame
    apply h.ne
    rw [hsplit data', hsplit data, hbefore, hafter, hsame]

end Burst

end OffloadFabric
